import LeaseQueue.Sweep.Engine

/-!
Properties that calls have if all of their parts do. A sweep has such a property if the operations of its target have
it for the lock, the queue and the batches of the sweep.
-/
namespace LeaseQueue

variable {m : Type → Type} [Monad m]

/-- A property that doing nothing has, and that a sequence has if all its steps do. -/
structure Composable (property : (α : Type) → m α → Prop) : Prop where
  pure : ∀ {α : Type} (result : α), property α (Pure.pure result)
  bind : ∀ {α β : Type} {step : m α} {next : α → m β},
    property α step → (∀ value, property β (next value)) → property β (step >>= next)

/-- The operations of a target that a sweep uses have the property. -/
structure TargetHas (property : (α : Type) → m α → Prop) (target : SweepTarget m) (lock : Int) (queue : QueueName)
    (rows : Nat) : Prop where
  takeLocal : ∀ key, property _ (target.takeLocal key)
  freeLocal : ∀ key, property _ (target.freeLocal key)
  tryAdvisory : property _ (target.tryAdvisory lock)
  unlock : property _ (target.unlock lock)
  abandon : property _ (target.abandon lock)
  guarded : ∀ {α : Type} (guard : Guard) {action : m α}, property α action → property α (target.guarded guard action)
  deleteDead : property _ (target.deleteDead queue rows)

namespace TargetHas

variable {property : (α : Type) → m α → Prop} {target : SweepTarget m} {lock : Int} {queue : QueueName} {rows : Nat}
variable {α : Type}

theorem release (has : TargetHas property target lock queue rows) (composable : Composable property)
    (result : Except Error α) : property _ (target.release lock result) := by
  unfold LockTiers.release
  apply composable.bind has.unlock
  intro unlocked
  cases unlocked with
  | ok _ => exact composable.pure _
  | error failure =>
    apply composable.bind has.abandon
    intro _
    cases result <;> exact composable.pure _

theorem underAdvisory (has : TargetHas property target lock queue rows) (composable : Composable property)
    {body : m (Except Error α)} (within : property _ body) : property _ (target.underAdvisory lock body) := by
  unfold LockTiers.underAdvisory
  apply has.guarded
  apply composable.bind has.tryAdvisory
  intro taken
  match taken with
  | .error failure => exact composable.bind has.abandon fun _ => composable.pure _
  | .ok false => exact composable.pure _
  | .ok true => exact composable.bind within fun result => has.release composable result

theorem tryRunExclusive (has : TargetHas property target lock queue rows) (composable : Composable property)
    (held : List LocalKey) (manager : String) {body : List LocalKey → m (Except Error α)}
    (within : ∀ locks, property _ (body locks)) : property _ (target.tryRunExclusive held manager lock body) := by
  unfold LockTiers.tryRunExclusive
  dsimp only
  split
  · exact has.underAdvisory composable (within _)
  · apply composable.bind (has.takeLocal _)
    intro taken
    split
    · apply composable.bind (has.guarded _ (has.underAdvisory composable (within _)))
      intro result
      exact composable.bind (has.freeLocal _) fun _ => composable.pure _
    · exact composable.pure _

theorem batches (has : TargetHas property target lock queue rows) (composable : Composable property) (more : Nat) :
    property _ (SweepEngine.batches target queue rows more) := by
  induction more with
  | zero =>
    apply composable.bind has.deleteDead
    intro swept
    cases swept <;> exact composable.pure _
  | succ more ih =>
    apply composable.bind has.deleteDead
    intro swept
    cases swept with
    | error failure => exact composable.pure _
    | ok batch =>
      dsimp only
      split
      · exact composable.pure _
      · apply composable.bind ih
        intro others
        cases others <;> exact composable.pure _

variable {engine : SweepEngine} {hint : Nat}

theorem sweep (has : TargetHas property target (engine.lockId queue) queue (max hint engine.settings.maxRows))
    (composable : Composable property) : property _ (engine.sweep target queue hint) :=
  composable.bind (has.tryRunExclusive composable _ _ fun _ => has.batches composable _) fun _ => composable.pure _

theorem sweepIf (has : TargetHas property target (engine.lockId queue) queue (max hint engine.settings.maxRows))
    (composable : Composable property) (drawn : Bool) : property _ (engine.sweepIf drawn target queue hint) := by
  cases drawn with
  | false => exact composable.pure _
  | true =>
    apply composable.bind (has.sweep composable)
    intro outcome
    cases outcome <;> exact composable.pure _

end TargetHas

end LeaseQueue
