/-!
The patterns of SQL `like`: `%` stands for any run of characters, `_` for one, and a backslash makes the next
character stand for itself. A backslash with nothing behind it matches nothing.

A text is read from the left. Where it does not go on as the pattern asks, the run of the last `%` is made longer by
one character, and the pattern behind that `%` is tried again from there.
-/
namespace LeaseQueue

/-- What is left of a pattern whose first place is for one character, if `c` fits there. -/
def likeRest? (c : Char) : List Char → Option (List Char)
  | [] | '%' :: _ => none
  | '_' :: rest => some rest
  | '\\' :: escaped =>
    match escaped with
    | [] => none
    | literal :: rest => if literal = c then some rest else none
  | literal :: rest => if literal = c then some rest else none

/-- The pattern behind a `%`, and where its run ended when that pattern was tried last. -/
structure LikeRetry where
  pattern : List Char
  text : List Char

/-- What is left of a pattern and a text, and where to try again. -/
structure LikeScan where
  pattern : List Char
  text : List Char
  retry : Option LikeRetry
  within : ∀ last ∈ retry, text <:+ last.text

namespace LikeScan

def start (pattern text : List Char) : LikeScan := ⟨pattern, text, none, nofun⟩

/-- Tries a pattern that stands behind a `%`. -/
def behind (last : LikeRetry) : LikeScan where
  pattern := last.pattern
  text := last.text
  retry := some last
  within _ same := Option.some.inj same ▸ List.suffix_refl _

/-- One round: the answer, or the scan that goes on. -/
def step : LikeScan → Bool ⊕ LikeScan
  | ⟨pattern, [], _, _⟩ => .inl (pattern.all (· == '%'))
  | ⟨'%' :: pattern, text, _, _⟩ => .inr (behind ⟨pattern, text⟩)
  | ⟨pattern, c :: text, retry, within⟩ =>
    match likeRest? c pattern with
    | some rest => .inr ⟨rest, text, retry, fun last kept => (List.suffix_cons c text).trans (within last kept)⟩
    | none =>
      match retry with
      | some last => .inr (behind ⟨last.pattern, last.text.tail⟩)
      | none => .inl false

theorem likeRest?_length_lt {c : Char} {pattern rest : List Char} (fits : likeRest? c pattern = some rest) :
    rest.length < pattern.length := by
  unfold likeRest? at fits
  grind

/-- The text that is left for the last `%`, and the pattern that is left behind it. -/
def bound (scan : LikeScan) : Nat × Nat :=
  (scan.retry.elim (scan.text.length + 1) fun last => last.text.length, scan.pattern.length)

/-- A longer run leaves less text to try, and until then the pattern gets shorter. -/
theorem step_bound_lt {scan next : LikeScan} (goes : scan.step = .inr next) :
    Prod.Lex (· < ·) (· < ·) next.bound scan.bound := by
  revert goes
  fun_cases step scan <;> intro goes <;> cases goes
  case case2 pattern text retry within _ =>
    cases retry with
    | none => exact .left _ _ (Nat.lt_succ_self _)
    | some last =>
      rcases Nat.lt_or_eq_of_le (within last rfl).length_le with less | same
      · exact .left _ _ less
      · change Prod.Lex _ _ (text.length, pattern.length) (last.text.length, pattern.length + 1)
        rw [same]
        exact .right _ (Nat.lt_succ_self _)
  case case3 pattern c text retry within _ rest fits =>
    cases retry with
    | none => exact .left _ _ (Nat.lt_succ_self _)
    | some last => exact .right _ (likeRest?_length_lt fits)
  case case4 pattern c text _ _ last within _ =>
    have filled := (within last rfl).length_le
    refine .left _ _ ?_
    change last.text.tail.length < last.text.length
    rw [List.length_tail]
    exact Nat.sub_lt (Nat.lt_of_lt_of_le (Nat.succ_pos _) filled) Nat.zero_lt_one

/-- Goes round until there is an answer. -/
def run (scan : LikeScan) : Bool :=
  match _goes : scan.step with
  | .inl answer => answer
  | .inr next => next.run
termination_by scan.bound
decreasing_by exact step_bound_lt ‹_›

end LikeScan

/-- Whether a text is like a pattern. -/
def likeMatches (text pattern : String) : Bool := (LikeScan.start pattern.toList text.toList).run

end LeaseQueue
