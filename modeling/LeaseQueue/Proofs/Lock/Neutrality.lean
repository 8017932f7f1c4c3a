import LeaseQueue.Proofs.Lock.Accounting
import LeaseQueue.Proofs.Lock.Advisory

/-!
What exclusive runs do to the holds of their session when the session itself may fail them. A call gives back the hold
that it takes, however it ends. It gives back one as well if it could not even ask for its lock, and that one belongs to
whoever took the lock through the session before.
-/
namespace LeaseQueue.Interleaving

variable {α : Type}

/-- How a call ends. -/
inductive Ending (α : Type)
  | returned (result : Except Error (Option α))
  | cancelled

/-- What a session is used for. -/
inductive Activity (α : Type)
  /-- What is left of a call, with the guards that act should it be cut short. -/
  | call (guards : List Guard) (rest : Course α (Except Error (Option α))) (ending : Ending α)
  /-- The guards of a call that was cut short. -/
  | dropped (guards : List Guard)
  /-- What is left of a body. -/
  | body

/-- A step of another session. -/
inductive Elsewhere (session : Nat) (locks : AdvisoryLocks) : AdvisoryLocks → Prop
  | openSession : Elsewhere session locks locks.openSession.2
  | tryLock {other : Nat} (apart : other ≠ session) (lock : Int) : Elsewhere session locks (locks.tryLock other lock).2
  | unlock {other : Nat} (apart : other ≠ session) (lock : Int) : Elsewhere session locks (locks.unlock other lock).2
  | closeSession {other : Nat} (apart : other ≠ session) : Elsewhere session locks (locks.closeSession other)

/-- A session is used from one state of the locks to another. Whenever it asks for a lock or its release, this may fail
and leave the locks alone. `missed` are the locks that it held when it failed to ask for them. -/
inductive Runs (session : Nat) : Activity α → AdvisoryLocks → List Int → AdvisoryLocks → Prop
  | elsewhere {activity : Activity α} {before middle after : AdvisoryLocks} {missed : List Int}
      (step : Elsewhere session before middle) (rest : Runs session activity middle missed after) :
      Runs session activity before missed after
  | returned {locks : AdvisoryLocks} {guards : List Guard} (result : Except Error (Option α)) :
      Runs session (.call guards (.done result) (.returned result)) locks [] locks
  /-- Whether the local lock can be taken depends on the other tasks of the process. -/
  | takeLocal {before after : AdvisoryLocks} {missed : List Int} {guards : List Guard} {key : LocalKey} {next}
      {ending : Ending α} (taken : Bool) (rest : Runs session (.call guards (next taken) ending) before missed after) :
      Runs session (.call guards (.ask (.takeLocal key) next) ending) before missed after
  | freeLocal {before after : AdvisoryLocks} {missed : List Int} {guards : List Guard} {key : LocalKey} {next}
      {ending : Ending α} (rest : Runs session (.call guards (next ()) ending) before missed after) :
      Runs session (.call guards (.ask (.freeLocal key) next) ending) before missed after
  | tryAdvisory {before after : AdvisoryLocks} {missed : List Int} {guards : List Guard} {lock : Int} {next}
      {ending : Ending α}
      (rest : Runs session (.call guards (next (.ok (before.tryLock session lock).1)) ending)
        (before.tryLock session lock).2 missed after) :
      Runs session (.call guards (.ask (.tryAdvisory lock) next) ending) before missed after
  | tryFails {before after : AdvisoryLocks} {missed : List Int} {guards : List Guard} {lock : Int} {next}
      {ending : Ending α} (failure : Error)
      (rest : Runs session (.call guards (next (.error failure)) ending) before missed after) :
      Runs session (.call guards (.ask (.tryAdvisory lock) next) ending) before
        (if 0 < before.balance session lock then lock :: missed else missed) after
  | unlock {before after : AdvisoryLocks} {missed : List Int} {guards : List Guard} {lock : Int} {next}
      {ending : Ending α}
      (rest : Runs session (.call guards (next (.ok (before.unlock session lock).1)) ending)
        (before.unlock session lock).2 missed after) :
      Runs session (.call guards (.ask (.unlock lock) next) ending) before missed after
  | unlockFails {before after : AdvisoryLocks} {missed : List Int} {guards : List Guard} {lock : Int} {next}
      {ending : Ending α} (failure : Error)
      (rest : Runs session (.call guards (next (.error failure)) ending) before missed after) :
      Runs session (.call guards (.ask (.unlock lock) next) ending) before missed after
  | abandon {before after : AdvisoryLocks} {missed : List Int} {guards : List Guard} {lock : Int} {next}
      {ending : Ending α}
      (rest : Runs session (.call guards (next ()) ending) (before.unlock session lock).2 missed after) :
      Runs session (.call guards (.ask (.abandon lock) next) ending) before missed after
  | arm {before after : AdvisoryLocks} {missed : List Int} {guards : List Guard} {guard : Guard} {next}
      {ending : Ending α} (rest : Runs session (.call (guard :: guards) (next ()) ending) before missed after) :
      Runs session (.call guards (.ask (.arm guard) next) ending) before missed after
  | disarm {before after : AdvisoryLocks} {missed : List Int} {guards : List Guard} {next} {ending : Ending α}
      (rest : Runs session (.call guards.tail (next ()) ending) before missed after) :
      Runs session (.call guards (.ask .disarm next) ending) before missed after
  /-- The body ends, well or badly. -/
  | finish {before middle after : AdvisoryLocks} {missed later : List Int} {guards : List Guard} {held : List LocalKey}
      {next} {ending : Ending α} (inner : Runs session .body before missed middle) (result : Except Error α)
      (rest : Runs session (.call guards (next result) ending) middle later after) :
      Runs session (.call guards (.ask (.body held) next) ending) before (missed ++ later) after
  /-- The call is cut short in its body. -/
  | cancelBody {before middle after : AdvisoryLocks} {missed later : List Int} {guards : List Guard}
      {held : List LocalKey} {next} (inner : Runs session .body before missed middle)
      (rest : Runs session (.dropped guards) middle later after) :
      Runs session (.call guards (.ask (.body held) next) .cancelled) before (missed ++ later) after
  /-- The call is cut short when its body has ended. -/
  | cancelRelease {before after : AdvisoryLocks} {missed : List Int} {guards : List Guard} {lock : Int} {next}
      (rest : Runs session (.dropped guards) before missed after) :
      Runs session (.call guards (.ask (.unlock lock) next) .cancelled) before missed after
  | guardLocal {before after : AdvisoryLocks} {missed : List Int} {guards : List Guard} {key : LocalKey}
      (rest : Runs session (.dropped guards) before missed after) :
      Runs session (.dropped (.freeLocal key :: guards)) before missed after
  | guardAdvisory {before after : AdvisoryLocks} {missed : List Int} {guards : List Guard} {lock : Int}
      (rest : Runs session (.dropped guards) (before.unlock session lock).2 missed after) :
      Runs session (.dropped (.abandon lock :: guards)) before missed after
  | settled {locks : AdvisoryLocks} : Runs session (.dropped []) locks [] locks
  /-- The body makes a call, which may be cut short while the body goes on. -/
  | nested {before middle after : AdvisoryLocks} {missed later : List Int} {held : List LocalKey} {key : LocalKey}
      {ending : Ending α} (inner : Runs session (.call [] (exclusive held key) ending) before missed middle)
      (rest : Runs session .body middle later after) :
      Runs session .body before (missed ++ later) after
  | idle {locks : AdvisoryLocks} : Runs session .body locks [] locks

/-- Should the call be cut short, its guards give back what it owes. -/
def Covers (owed : List Int) (guards : List Guard) : Prop := ∀ lock, guards.count (.abandon lock) = owed.count lock

/-- What is left of a call gives back one hold of each lock it owes, the last one first. -/
def Settles : List Int → List Guard → Course α (Except Error (Option α)) → Prop
  | owed, _, .done _ => owed = []
  | owed, guards, .ask (.takeLocal _) next => ∀ taken, Settles owed guards (next taken)
  | owed, guards, .ask (.freeLocal _) next => Settles owed guards (next ())
  | owed, guards, .ask (.tryAdvisory lock) next => Settles (lock :: owed) guards (next (.ok true)) ∧
      Settles owed guards (next (.ok false)) ∧ ∀ failure, Settles (lock :: owed) guards (next (.error failure))
  | owed, guards, .ask (.unlock lock) next => Covers owed guards ∧ ∃ others, owed = lock :: others ∧
      (∀ released, Settles others guards (next (.ok released))) ∧ ∀ failure, Settles owed guards (next (.error failure))
  | owed, guards, .ask (.abandon lock) next => ∃ others, owed = lock :: others ∧ Settles others guards (next ())
  | owed, guards, .ask (.arm guard) next => Settles owed (guard :: guards) (next ())
  | owed, guards, .ask .disarm next => Settles owed guards.tail (next ())
  | owed, guards, .ask (.body _) next => Covers owed guards ∧ ∀ result, Settles owed guards (next result)

def Activity.Settles (owed : List Int) : Activity α → Prop
  | call guards rest _ => Interleaving.Settles owed guards rest
  | dropped guards => Covers owed guards
  | body => owed = []

section

variable {guards : List Guard} {next : Except Error (Option α) → Course α (Except Error (Option α))}

theorem settles_release (lock : Int) (result : Except Error α) (covers : Covers [lock] guards)
    (settled : ∀ outcome, Settles [] guards (next outcome)) :
    Settles [lock] guards ((tiers.release lock result).bind next) := by
  refine ⟨covers, [], rfl, fun released => settled (result.map some), fun failure => ⟨[], rfl, ?_⟩⟩
  cases result with
  | ok value => exact settled (.error failure)
  | error cause => exact settled (.error cause)

/-- The advisory tier gives back one hold, and does so even if it could not ask for it. -/
theorem settles_underAdvisory (lock : Int) (held : List LocalKey)
    (unarmed : ∀ id, guards.count (.abandon id) = 0) (settled : ∀ outcome, Settles [] guards (next outcome)) :
    Settles [] guards ((tiers.underAdvisory lock (runBody held)).bind next) := by
  have covers : Covers [lock] (.abandon lock :: guards) := by
    intro id
    rw [List.count_cons, List.count_cons, unarmed]
    simp
  rw [underAdvisory_bind]
  refine ⟨⟨covers, fun result => ?_⟩, settled (.ok none), fun failure => ⟨[], rfl, settled (.error failure)⟩⟩
  exact settles_release lock result covers fun outcome => settled outcome

theorem settles_exclusive (held : List LocalKey) (key : LocalKey) : Settles [] [] (exclusive (α := α) held key) := by
  by_cases inherited : key ∈ held
  · rw [exclusive_inherited inherited]
    exact settles_underAdvisory key.lock held (fun _ => rfl) fun _ => rfl
  · rw [exclusive_own inherited]
    intro taken
    cases taken with
    | false => rfl
    | true => exact settles_underAdvisory key.lock (key :: held) (fun _ => by simp) fun _ => rfl

end

section

variable {session : Nat} {activity : Activity α} {before after : AdvisoryLocks} {missed : List Int}

theorem Elsewhere.positive (step : Elsewhere session before after) (valid : before.Positive) : after.Positive := by
  cases step with
  | openSession => exact valid
  | tryLock => exact valid.tryLock
  | unlock => exact valid.unlock
  | closeSession => exact valid.closeSession

theorem Elsewhere.balance (step : Elsewhere session before after) (valid : before.Positive) (lock : Int) :
    after.balance session lock = before.balance session lock := by
  cases step with
  | openSession => rfl
  | @tryLock other apart id =>
    cases taken : (before.tryLock other id).1 with
    | false => rw [AdvisoryLocks.tryLock_missed taken]
    | true => rw [AdvisoryLocks.balance_tryLock taken, if_neg fun same => apart same.1, Nat.add_zero]
  | unlock apart => rw [AdvisoryLocks.balance_unlock valid, if_neg fun same => apart same.1, Nat.sub_zero]
  | closeSession apart => rw [AdvisoryLocks.balance_closeSession, if_neg apart]

theorem Runs.positive (ran : Runs session activity before missed after) (valid : before.Positive) :
    after.Positive := by
  induction ran with
  | returned | settled | idle => exact valid
  | elsewhere step _ ih => exact ih (step.positive valid)
  | takeLocal _ _ ih | freeLocal _ ih | tryFails _ _ ih | unlockFails _ _ ih | arm _ ih | disarm _ ih
  | cancelRelease _ ih | guardLocal _ ih => exact ih valid
  | tryAdvisory _ ih => exact ih valid.tryLock
  | unlock _ ih | abandon _ ih | guardAdvisory _ ih => exact ih valid.unlock
  | finish _ _ _ first second | cancelBody _ _ first second | nested _ _ first second => exact second (first valid)

/-- A session gives back what it owes of a lock, and loses at most what it missed. -/
structure GivesBack (session : Nat) (lock : Int) (owed missed : Nat) (before after : AdvisoryLocks) : Prop where
  given : after.balance session lock ≤ before.balance session lock - owed
  kept : before.balance session lock ≤ after.balance session lock + owed + missed

theorem GivesBack.refl (session : Nat) (lock : Int) (locks : AdvisoryLocks) : GivesBack session lock 0 0 locks locks :=
  ⟨Nat.le_refl _, Nat.le_refl _⟩

/-- First a body gives back all that it has taken, then the call what it owes. -/
theorem GivesBack.trans {lock : Int} {owed first second : Nat} {middle : AdvisoryLocks}
    (inside : GivesBack session lock 0 first before middle) (outside : GivesBack session lock owed second middle after) :
    GivesBack session lock owed (first + second) before after := by
  obtain ⟨given, kept⟩ := inside
  obtain ⟨later, left⟩ := outside
  exact ⟨by omega, by omega⟩

/-- A release gives back one hold. -/
theorem GivesBack.unlock {id lock : Int} {owed others missed : Nat} (valid : before.Positive)
    (rest : GivesBack session lock others missed (before.unlock session id).2 after)
    (one : owed = others + if id = lock then 1 else 0) : GivesBack session lock owed missed before after := by
  obtain ⟨given, kept⟩ := rest
  rw [AdvisoryLocks.balance_unlock valid] at given kept
  by_cases here : id = lock
  · simp only [here, and_self, if_true] at given kept one
    exact ⟨by omega, by omega⟩
  · simp only [here, and_false, if_false] at given kept one
    exact ⟨by omega, by omega⟩

/-- A lock that is asked for and taken is owed. -/
theorem GivesBack.tryLock {id lock : Int} {owed missed : Nat} (taken : (before.tryLock session id).1 = true)
    (rest : GivesBack session lock (owed + if id = lock then 1 else 0) missed (before.tryLock session id).2 after) :
    GivesBack session lock owed missed before after := by
  obtain ⟨given, kept⟩ := rest
  rw [AdvisoryLocks.balance_tryLock taken] at given kept
  by_cases here : id = lock
  · simp only [here, and_self, if_true] at given kept
    exact ⟨by omega, by omega⟩
  · simp only [here, and_false, if_false] at given kept
    exact ⟨by omega, by omega⟩

/-- A lock that could not be asked for is given back all the same, so that the session misses it if it had it. -/
theorem GivesBack.tryFails {id lock : Int} {owed : Nat} {missed : List Int}
    (rest : GivesBack session lock (owed + if id = lock then 1 else 0) (missed.count lock) before after) :
    GivesBack session lock owed ((if 0 < before.balance session id then id :: missed else missed).count lock) before
      after := by
  obtain ⟨given, kept⟩ := rest
  refine ⟨by omega, ?_⟩
  by_cases here : id = lock
  · subst here
    rw [if_pos rfl] at kept
    split
    · rw [List.count_cons_self]
      omega
    · omega
  · rw [if_neg here] at kept
    split
    · rw [List.count_cons_of_ne here]
      omega
    · omega

theorem count_cons_owed (id lock : Int) (owed : List Int) :
    (id :: owed).count lock = owed.count lock + if id = lock then 1 else 0 := by
  rw [List.count_cons]
  simp

/-- Whatever a session is used for, it gives back what it owes, and loses no hold but those that it missed. -/
theorem Runs.givesBack (ran : Runs session activity before missed after) (valid : before.Positive) {owed : List Int}
    (settles : activity.Settles owed) (lock : Int) :
    GivesBack session lock (owed.count lock) (missed.count lock) before after := by
  induction ran generalizing owed with
  | elsewhere step _ ih =>
    obtain ⟨given, kept⟩ := ih (step.positive valid) settles
    rw [step.balance valid lock] at given kept
    exact ⟨given, kept⟩
  | returned result =>
    obtain rfl : owed = [] := settles
    exact .refl session lock _
  | takeLocal taken _ ih => exact ih valid (settles taken)
  | freeLocal _ ih | arm _ ih | disarm _ ih => exact ih valid settles
  | @tryAdvisory before after missed guards id next ending _ ih =>
    obtain ⟨got, lost, _⟩ := settles
    cases taken : (before.tryLock session id).1 with
    | false =>
      rw [taken, AdvisoryLocks.tryLock_missed taken] at ih
      exact ih valid lost
    | true =>
      rw [taken] at ih
      have rest := ih valid.tryLock got
      rw [count_cons_owed] at rest
      exact .tryLock taken rest
  | tryFails failure _ ih =>
    have rest := ih valid (settles.2.2 failure)
    rw [count_cons_owed] at rest
    exact .tryFails rest
  | unlock _ ih =>
    obtain ⟨_, others, rfl, released, _⟩ := settles
    exact (ih valid.unlock (released _)).unlock valid (count_cons_owed ..)
  | unlockFails failure _ ih =>
    obtain ⟨_, _, _, _, failed⟩ := settles
    exact ih valid (failed failure)
  | abandon _ ih =>
    obtain ⟨others, rfl, rest⟩ := settles
    exact (ih valid.unlock rest).unlock valid (count_cons_owed ..)
  | finish inner result _ body call =>
    rw [List.count_append]
    exact (body valid rfl).trans (call (inner.positive valid) (settles.2 result))
  | cancelBody inner _ body guards =>
    rw [List.count_append]
    exact (body valid rfl).trans (guards (inner.positive valid) settles.1)
  | cancelRelease _ ih => exact ih valid settles.1
  | @guardLocal _ _ _ guards key _ ih =>
    have covers : Covers owed guards := fun id => by
      rw [← settles id]
      simp
    exact ih valid covers
  | @guardAdvisory before after missed guards id _ ih =>
    have one (other : Int) : owed.count other = guards.count (.abandon other) + if id = other then 1 else 0 := by
      rw [← settles other, List.count_cons]
      simp
    have covers : Covers (owed.erase id) guards := fun other => by
      rw [List.count_erase, one other]
      by_cases here : id = other <;> simp [here]
    refine (ih valid.unlock covers).unlock valid ?_
    rw [one lock, covers lock]
  | settled =>
    have nothing : owed.count lock = 0 := (settles lock).symm
    rw [nothing]
    exact .refl session lock _
  | nested inner _ call body =>
    obtain rfl : owed = [] := settles
    rw [List.count_append]
    exact (call valid (settles_exclusive _ _)).trans (body (inner.positive valid) rfl)
  | idle =>
    obtain rfl : owed = [] := settles
    exact .refl session lock _

/-- An exclusive run is neutral on the holds of its session: however it ends, whatever fails in it and in the runs
inside it, the session holds every lock as often as before. Only where it could not ask for a lock that it held may
holds of this lock be gone, one for each time. -/
theorem exclusive_neutral (valid : before.Positive) {held : List LocalKey} {key : LocalKey} {ending : Ending α}
    (ran : Runs session (.call [] (exclusive held key) ending) before missed after) (lock : Int) :
    (lock ∉ missed → after.balance session lock = before.balance session lock) ∧
      after.balance session lock ≤ before.balance session lock ∧
      before.balance session lock ≤ after.balance session lock + missed.count lock := by
  obtain ⟨given, kept⟩ := ran.givesBack valid (settles_exclusive held key) lock
  rw [List.count_nil] at given kept
  refine ⟨fun calm => ?_, given, by omega⟩
  rw [List.count_eq_zero.mpr calm] at kept
  omega

/-- A lock that one session has taken once. -/
def heldOnce : AdvisoryLocks := (AdvisoryLocks.none.tryLock 0 8).2

def connectionReset : Error := .invalidConfig (.reason "connection reset")

theorem heldOnce_positive : heldOnce.Positive := AdvisoryLocks.positive_none.tryLock

/-- A run inside the one that has the lock; its release fails. -/
theorem failed_release_keeps_hold : ∃ after,
    Runs 0 (.call [] (exclusive [⟨"m", 8⟩] ⟨"m", 8⟩) (.returned (.error connectionReset) : Ending Unit)) heldOnce []
      after ∧ after.balance 0 8 = 1 := by
  have ran : Runs 0 (.call [] (exclusive [⟨"m", 8⟩] ⟨"m", 8⟩) (.returned (.error connectionReset) : Ending Unit))
      heldOnce [] ((heldOnce.tryLock 0 8).2.unlock 0 8).2 := by
    rw [exclusive_inherited List.mem_cons_self, underAdvisory_bind]
    refine .arm (.tryAdvisory ?_)
    have taken : (heldOnce.tryLock 0 8).1 = true := by decide +kernel
    rw [taken]
    refine .finish .idle (.ok ()) ?_
    refine .unlockFails connectionReset ?_
    exact .abandon (.disarm (.returned _))
  have once : heldOnce.balance 0 8 = 1 := by decide +kernel
  exact ⟨_, ran, ((exclusive_neutral heldOnce_positive ran 8).1 List.not_mem_nil).trans once⟩

/-- The same, but the lock cannot be asked for. The session loses the hold under which the outer run still goes on, and
another session gets the lock. -/
theorem failed_acquire_loses_hold : ∃ after,
    Runs 0 (.call [] (exclusive [⟨"m", 8⟩] ⟨"m", 8⟩) (.returned (.error connectionReset) : Ending Unit)) heldOnce [8]
      after ∧ heldOnce.balance 0 8 = 1 ∧ after.balance 0 8 = 0 ∧ (after.tryLock 1 8).1 := by
  refine ⟨(heldOnce.unlock 0 8).2, ?_, by decide +kernel, by decide +kernel, by decide +kernel⟩
  rw [exclusive_inherited List.mem_cons_self, underAdvisory_bind]
  have missed : ([8] : List Int) = if 0 < heldOnce.balance 0 8 then [8] else [] := by decide +kernel
  rw [missed]
  refine .arm (.tryFails connectionReset ?_)
  exact .abandon (.disarm (.returned _))

end

end LeaseQueue.Interleaving
