/-!
Three-valued logic: `none` is unknown, the answer about a value that is not there.
-/
namespace LeaseQueue

abbrev Truth := Option Bool

namespace Truth

def not : Truth → Truth
  | some b => some !b
  | none => none

/-- False wins over unknown. -/
def and : Truth → Truth → Truth
  | some false, _ => some false
  | _, some false => some false
  | some true, some true => some true
  | _, _ => none

/-- True wins over unknown. -/
def or : Truth → Truth → Truth
  | some true, _ => some true
  | _, some true => some true
  | some false, some false => some false
  | _, _ => none

end Truth

end LeaseQueue
