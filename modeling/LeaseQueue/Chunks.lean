/-!
Lists cut into chunks.
-/
namespace LeaseQueue

/-- Cuts a list into chunks of a given size, the last of which may be shorter. -/
def chunks {α : Type} (size : Nat) (xs : List α) : List (List α) :=
  if size = 0 ∨ xs = [] then [] else xs.take size :: chunks size (xs.drop size)
termination_by xs.length
decreasing_by
  rename_i h
  have : xs.length ≠ 0 := fun empty => h (.inr (List.length_eq_zero_iff.1 empty))
  simp only [List.length_drop]
  omega

end LeaseQueue
