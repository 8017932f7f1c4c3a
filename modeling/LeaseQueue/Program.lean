/-!
Programs that act by asking. A program is done, or asks for something and goes on with whatever answer it gets; who
answers is left open, so that one program can be run against any outcome.
-/
namespace LeaseQueue

/-- `ρ` are the requests and `answer` gives the type of the answer to each. -/
inductive Program (ρ : Type) (answer : ρ → Type) (α : Type) : Type
  | done (result : α)
  | ask (request : ρ) (next : answer request → Program ρ answer α)

namespace Program

variable {ρ : Type} {answer : ρ → Type} {α β : Type}

/-- Goes on with another program where the first is done. -/
def bind : Program ρ answer α → (α → Program ρ answer β) → Program ρ answer β
  | done result, next => next result
  | ask request next, rest => ask request fun reply => (next reply).bind rest

instance : Monad (Program ρ answer) where
  pure := done
  bind := bind

theorem bind_done (program : Program ρ answer α) : program.bind done = program := by
  induction program with
  | done result => rfl
  | ask request next ih => exact congrArg (ask request) (funext ih)

theorem bind_assoc {γ : Type} (program : Program ρ answer α) (first : α → Program ρ answer β)
    (second : β → Program ρ answer γ) :
    (program.bind first).bind second = program.bind fun result => (first result).bind second := by
  induction program with
  | done result => rfl
  | ask request next ih => exact congrArg (ask request) (funext ih)

/-- Runs a program, every request of it answered in turn. -/
def run {m : Type → Type} [Monad m] (reply : (asked : ρ) → m (answer asked)) : Program ρ answer α → m α
  | done result => pure result
  | ask asked next => do run reply (next (← reply asked))

end Program

end LeaseQueue
