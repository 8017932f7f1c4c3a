import LeaseQueue.Proofs.Lock.Interleaving

/-!
What one call of an exclusive run takes and gives back, read off the program. A call owes one hold of its lock from the
moment it has taken it until it has given it back. While it owes one, exactly one of its guards gives up that lock.
-/
namespace LeaseQueue.Interleaving

variable {α : Type}

/-- The holds that a call with this much left to do has to give back. -/
def owed : Course α (Except Error (Option α)) → Nat
  | .ask (.body _) _ | .ask (.unlock _) _ => 1
  | _ => 0

/-- Whatever is answered, the call will not miss its lock. -/
def Decided : Course α (Except Error (Option α)) → Prop
  | .done result => result ≠ .ok none
  | .ask _ next => ∀ answer, Decided (next answer)

/-- The rest of a call gives back each hold that it takes. Wherever it can be cut short, exactly one of its guards
gives up the lock that it owes. -/
def Accounts (key : LocalKey) : Course α (Except Error (Option α)) → List Guard → Prop
  | .done _, guards => guards = []
  | .ask (.takeLocal _) next, guards => ∀ answer, owed (next answer) = 0 ∧ Accounts key (next answer) guards
  | .ask (.freeLocal _) next, guards => owed (next ()) = 0 ∧ Accounts key (next ()) guards
  | .ask (.tryAdvisory lock) next, guards => lock = key.lock ∧
      (owed (next (.ok true)) = 1 ∧ Decided (next (.ok true)) ∧ Accounts key (next (.ok true)) guards) ∧
      owed (next (.ok false)) = 0 ∧ Accounts key (next (.ok false)) guards
  | .ask (.unlock lock) next, guards => lock = key.lock ∧ guards.count (.abandon lock) = 1 ∧
      Decided (.ask (.unlock lock) next) ∧ owed (next (.ok true)) = 0 ∧ Accounts key (next (.ok true)) guards
  | .ask (.abandon _) _, _ => False
  | .ask (.arm guard) next, guards => (∀ lock, guard = .abandon lock → lock = key.lock) ∧
      owed (next ()) = 0 ∧ Accounts key (next ()) (guard :: guards)
  | .ask .disarm next, guards => owed (next ()) = 0 ∧ Accounts key (next ()) guards.tail
  | .ask (.body held) next, guards => guards.count (.abandon key.lock) = 1 ∧ Decided (.ask (.body held) next) ∧
      ∀ result, owed (next result) = 1 ∧ Accounts key (next result) guards

section Accounting

variable {next : Except Error (Option α) → Course α (Except Error (Option α))} {guards : List Guard}

/-- The advisory tier, step by step, with what follows it. -/
theorem underAdvisory_bind (lock : Int) (held : List LocalKey) :
    (tiers.underAdvisory lock (runBody held)).bind next =
      .ask (.arm (.abandon lock)) fun _ => .ask (.tryAdvisory lock) fun
        | .error failure => .ask (.abandon lock) fun _ => .ask .disarm fun _ => next (.error failure)
        | .ok false => .ask .disarm fun _ => next (.ok none)
        | .ok true => .ask (.body held) fun result =>
            (tiers.release lock result).bind fun outcome => .ask .disarm fun _ => next outcome := by
  refine congrArg (Program.ask _) (funext fun _ => congrArg (Program.ask _) (funext fun answer => ?_))
  match answer with
  | .error _ => rfl
  | .ok false => rfl
  | .ok true =>
    refine congrArg (Program.ask _) (funext fun result => ?_)
    exact Program.bind_assoc _ _ _

theorem decided_release (lock : Int) (result : Except Error α)
    (passes : ∀ outcome, outcome ≠ .ok none → Decided (next outcome)) :
    Decided ((tiers.release lock result).bind next) := by
  intro answer
  cases answer with
  | ok released =>
    apply passes
    cases result <;> simp [Except.map]
  | error failure =>
    intro _
    cases result with
    | ok _ => exact passes _ (by simp)
    | error _ => exact passes _ (by simp)

theorem accounts_release {key : LocalKey} (result : Except Error α)
    (armed : guards.count (.abandon key.lock) = 1)
    (passes : ∀ outcome, outcome ≠ .ok none → Decided (next outcome))
    (settled : ∀ outcome, owed (next outcome) = 0 ∧ Accounts key (next outcome) guards) :
    Accounts key ((tiers.release key.lock result).bind next) guards :=
  ⟨rfl, armed, decided_release key.lock result passes, settled (result.map some)⟩

/-- The advisory tier gives back its hold, whatever is done with its outcome. -/
theorem accounts_underAdvisory (held : List LocalKey) {key : LocalKey}
    (unarmed : guards.count (.abandon key.lock) = 0)
    (passes : ∀ outcome, outcome ≠ .ok none → Decided (next outcome))
    (settled : ∀ outcome, owed (next outcome) = 0 ∧ Accounts key (next outcome) guards) :
    Accounts key ((tiers.underAdvisory key.lock (runBody held)).bind next) guards := by
  have armed : (Guard.abandon key.lock :: guards).count (.abandon key.lock) = 1 := by simp [unarmed]
  have sure (outcome : Except Error (Option α)) (found : outcome ≠ .ok none) :
      Decided (.ask .disarm fun _ => next outcome) := fun _ => passes outcome found
  have last (outcome : Except Error (Option α)) : owed (.ask .disarm fun _ => next outcome) = 0 ∧
      Accounts key (.ask .disarm fun _ => next outcome) (.abandon key.lock :: guards) :=
    ⟨rfl, settled outcome⟩
  have running : Decided (.ask (.body held) fun result =>
      (tiers.release key.lock result).bind fun outcome => .ask .disarm fun _ => next outcome) :=
    fun result => decided_release key.lock result sure
  rw [underAdvisory_bind]
  refine ⟨fun lock same => by cases same; rfl, rfl, rfl, ⟨rfl, running, armed, running, fun result => ⟨rfl, ?_⟩⟩,
    last (.ok none)⟩
  exact accounts_release result armed sure last

theorem exclusive_inherited {held : List LocalKey} {key : LocalKey} (inherited : key ∈ held) :
    exclusive (α := α) held key = (tiers.underAdvisory key.lock (runBody held)).bind .done := by
  rw [Program.bind_done]
  exact if_pos inherited

theorem exclusive_own {held : List LocalKey} {key : LocalKey} (own : key ∉ held) :
    exclusive (α := α) held key = .ask (.takeLocal key) fun
      | false => .done (.ok none)
      | true => .ask (.arm (.freeLocal key)) fun _ =>
          (tiers.underAdvisory key.lock (runBody (key :: held))).bind fun outcome =>
            .ask .disarm fun _ => .ask (.freeLocal key) fun _ => .done outcome := by
  refine (if_neg own).trans (congrArg (Program.ask _) (funext fun taken => ?_))
  cases taken with
  | false => rfl
  | true =>
    refine congrArg (Program.ask _) (funext fun _ => ?_)
    exact Program.bind_assoc (tiers.underAdvisory key.lock (runBody (key :: held))) _ _

theorem owed_exclusive (held : List LocalKey) (key : LocalKey) : owed (exclusive (α := α) held key) = 0 := by
  by_cases inherited : key ∈ held
  · rw [exclusive_inherited inherited, underAdvisory_bind]
    rfl
  · rw [exclusive_own inherited]
    rfl

theorem accounts_exclusive (held : List LocalKey) (key : LocalKey) :
    Accounts key (exclusive (α := α) held key) [] := by
  by_cases inherited : key ∈ held
  · rw [exclusive_inherited inherited]
    exact accounts_underAdvisory held rfl (fun _ found => found) (fun _ => ⟨rfl, rfl⟩)
  · rw [exclusive_own inherited]
    intro answer
    cases answer with
    | false => exact ⟨rfl, rfl⟩
    | true =>
      refine ⟨rfl, by simp, rfl, ?_⟩
      exact accounts_underAdvisory (key :: held) (by simp) (fun _ found _ _ => found)
        (fun _ => ⟨rfl, rfl, rfl, rfl⟩)

end Accounting

end LeaseQueue.Interleaving
