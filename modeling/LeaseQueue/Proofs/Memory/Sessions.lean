import LeaseQueue.Memory.Store
import LeaseQueue.Proofs.Lock.Advisory
import LeaseQueue.Proofs.Running

/-!
Sweeps run in a session of their own and under two locks. All that this adds to the batches of a sweep is a change of
locks, and a sweep that does not get them changes nothing else.
-/
namespace LeaseQueue

/-- Two databases that differ in their locks at most. -/
def SameButLocks (before after : Database) : Prop :=
  ∃ locks localLocks, after = { before with locks := locks, localLocks := localLocks }

theorem SameButLocks.refl (database : Database) : SameButLocks database database := ⟨_, _, rfl⟩

theorem SameButLocks.trans {first second third : Database} (earlier : SameButLocks first second)
    (later : SameButLocks second third) : SameButLocks first third := by
  obtain ⟨_, _, rfl⟩ := earlier
  obtain ⟨locks, localLocks, rfl⟩ := later
  exact ⟨locks, localLocks, rfl⟩

variable {α β : Type}

/-- A call that runs another one with nothing but locks taken and released around it. -/
def Wraps (outer : Run β) (give : α → β) (inner : Run α) (before : Database) : Prop :=
  ∃ taken, SameButLocks before taken ∧
    SameButLocks (inner.run.run taken).2 (outer.run.run before).2 ∧
    (outer.run.run before).1 = (inner.run.run taken).1.map give

/-- A call that gives this answer and changes nothing but locks. -/
def Answers (outer : Run β) (answer : β) (before : Database) : Prop :=
  Wraps outer (fun _ => answer) (pure ()) before

/-- A call that only changes locks and does not stop. -/
def OnlyLocks (action : Run Unit) : Prop := ∀ before, ∃ after, action.run.run before = (.ok (), after) ∧
  SameButLocks before after

namespace Wraps

variable {cleanup : Run Unit} {outer next : Run β} {give : α → β} {inner : Run α} {before middle : Database}

theorem refl (action : Run β) (before : Database) : Wraps action id action before := by
  refine ⟨before, .refl before, .refl _, ?_⟩
  cases (action.run.run before).1 <;> rfl

theorem start (same : SameButLocks before middle) (ran : outer.run.run before = next.run.run middle)
    (wraps : Wraps next give inner middle) : Wraps outer give inner before := by
  obtain ⟨taken, aside, last, outcome⟩ := wraps
  rw [← ran] at last outcome
  exact ⟨taken, same.trans aside, last, outcome⟩

theorem cleaning (frees : OnlyLocks cleanup) (wraps : Wraps outer give inner before) :
    Wraps (cleaning Overflow cleanup outer) give inner before := by
  obtain ⟨taken, same, last, outcome⟩ := wraps
  refine ⟨taken, same, ?_⟩
  unfold LeaseQueue.cleaning
  rw [run_tryCatch]
  rcases ran : outer.run.run before with ⟨result | result, after⟩
  · rw [ran] at last outcome
    obtain ⟨clean, cleaned, aside⟩ := frees after
    dsimp only
    rw [run_bind, cleaned]
    exact ⟨last.trans aside, outcome⟩
  · rw [ran] at last outcome
    exact ⟨last, outcome⟩

theorem releasing (frees : OnlyLocks cleanup) (wraps : Wraps outer give inner before) :
    Wraps (do let result ← outer; cleanup; pure result) give inner before := by
  obtain ⟨taken, same, last, outcome⟩ := wraps
  refine ⟨taken, same, ?_⟩
  rw [run_bind]
  rcases ran : outer.run.run before with ⟨result | result, after⟩
  · rw [ran] at last outcome
    exact ⟨last, outcome⟩
  · rw [ran] at last outcome
    obtain ⟨clean, cleaned, aside⟩ := frees after
    dsimp only
    rw [run_bind, cleaned]
    exact ⟨last.trans aside, outcome⟩

theorem map {γ : Type} (change : β → γ) (wraps : Wraps outer give inner before) :
    Wraps (do let result ← outer; pure (change result)) (fun result => change (give result)) inner before := by
  obtain ⟨taken, same, last, outcome⟩ := wraps
  refine ⟨taken, same, ?_⟩
  rw [run_bind]
  rcases ran : outer.run.run before with ⟨result | result, after⟩
  · rw [ran] at last outcome
    refine ⟨last, ?_⟩
    cases stopped : (inner.run.run taken).1 with
    | error overflow => rw [stopped] at outcome; cases outcome; rfl
    | ok found => rw [stopped] at outcome; cases outcome
  · rw [ran] at last outcome
    refine ⟨last, ?_⟩
    cases stopped : (inner.run.run taken).1 with
    | error overflow => rw [stopped] at outcome; cases outcome
    | ok found => rw [stopped] at outcome; cases outcome; rfl

theorem of_eq {other : α → β} (same : ∀ result, give result = other result) (wraps : Wraps outer give inner before) :
    Wraps outer other inner before :=
  funext same ▸ wraps

end Wraps

namespace Run

theorem tryAdvisory_run (session : Nat) (lock : Int) (before : Database) :
    ((sweepTarget session).tryAdvisory lock).run.run before =
      (.ok (.ok (before.locks.tryLock session lock).1),
        { before with locks := (before.locks.tryLock session lock).2 }) := rfl

theorem unlock_run (session : Nat) (lock : Int) (before : Database) :
    ((sweepTarget session).unlock lock).run.run before =
      (.ok (.ok (before.locks.unlock session lock).1),
        { before with locks := (before.locks.unlock session lock).2 }) := rfl

theorem abandon_onlyLocks (session : Nat) (lock : Int) : OnlyLocks (abandon session lock) :=
  fun _ => ⟨_, rfl, _, _, rfl⟩

theorem freeLocal_onlyLocks (key : LocalKey) : OnlyLocks (freeLocal key) := fun _ => ⟨_, rfl, _, _, rfl⟩

theorem closeSession_onlyLocks (session : Nat) : OnlyLocks (closeSession session) := fun _ => ⟨_, rfl, _, _, rfl⟩

theorem underAdvisory_run (session : Nat) (lock : Int) (body : Run (Except Error α)) (before : Database) :
    Answers ((sweepTarget session).underAdvisory lock body) (.ok none) before ∨
      Wraps ((sweepTarget session).underAdvisory lock body) (·.map some) body before := by
  cases taken : (before.locks.tryLock session lock).1 with
  | false =>
    refine .inl (Wraps.cleaning (abandon_onlyLocks session lock) ?_)
    refine ⟨before, .refl before, ?_⟩
    rw [run_bind, tryAdvisory_run, taken]
    exact ⟨⟨_, _, rfl⟩, rfl⟩
  | true =>
    refine .inr (Wraps.cleaning (abandon_onlyLocks session lock) ?_)
    refine ⟨{ before with locks := (before.locks.tryLock session lock).2 }, ⟨_, _, rfl⟩, ?_⟩
    rw [run_bind, tryAdvisory_run, taken]
    dsimp only
    rw [run_bind]
    rcases body.run.run _ with ⟨overflow | result, last⟩
    · exact ⟨.refl _, rfl⟩
    · dsimp only
      unfold LockTiers.release
      rw [run_bind, unlock_run]
      exact ⟨⟨_, _, rfl⟩, rfl⟩

/-- An exclusive run misses, or it is its body with some locks around it. -/
theorem tryRunExclusive_run (session : Nat) (manager : String) (lock : Int) (body : Run (Except Error α))
    (before : Database) :
    Answers ((sweepTarget session).tryRunExclusive [] manager lock fun _ => body) (.ok none) before ∨
      Wraps ((sweepTarget session).tryRunExclusive [] manager lock fun _ => body) (·.map some) body before := by
  let key : LocalKey := ⟨manager, lock⟩
  have asked : ((sweepTarget session).takeLocal key).run.run before =
      (.ok (before.localLocks.tryTake key).1,
        { before with localLocks := (before.localLocks.tryTake key).2 }) := rfl
  unfold LockTiers.tryRunExclusive
  rw [if_neg List.not_mem_nil]
  cases taken : (before.localLocks.tryTake key).1 with
  | false =>
    refine .inl ⟨before, .refl before, ?_⟩
    rw [run_bind, asked, taken]
    exact ⟨⟨_, _, rfl⟩, rfl⟩
  | true =>
    have ran (miss hit : Run (Except Error (Option α))) :
        (do if ← (sweepTarget session).takeLocal key then hit else miss).run.run before =
          hit.run.run { before with localLocks := (before.localLocks.tryTake key).2 } := by
      rw [run_bind, asked, taken]
      rfl
    have frees := freeLocal_onlyLocks key
    rcases underAdvisory_run session lock body
        { before with localLocks := (before.localLocks.tryTake key).2 } with missed | wraps
    · exact .inl (.start ⟨_, _, rfl⟩ (ran _ _) (.releasing frees (.cleaning frees missed)))
    · exact .inr (.start ⟨_, _, rfl⟩ (ran _ _) (.releasing frees (.cleaning frees wraps)))

/-- What runs in a session of its own runs with some locks around it. -/
theorem inSession_run (action : Nat → Run β) (before : Database) :
    Wraps (inSession action) id (action before.locks.openSession.1) before := by
  have frees := closeSession_onlyLocks before.locks.openSession.1
  have opened : SameButLocks before { before with locks := before.locks.openSession.2 } := ⟨_, _, rfl⟩
  have body := Wraps.refl (action before.locks.openSession.1) { before with locks := before.locks.openSession.2 }
  exact .start opened rfl (.releasing frees (.cleaning frees body))

/-- A sweep does not get its locks, or it is its batches with some locks around them. -/
theorem engine_sweep_wraps (engine : SweepEngine) (session : Nat) (queue : QueueName) (hint : Nat) (before : Database) :
    Answers (engine.sweep (sweepTarget session) queue hint) (.ok .lockNotAcquired) before ∨
      Wraps (engine.sweep (sweepTarget session) queue hint)
        (·.map fun (removed, iterations) => .completed removed iterations)
        (SweepEngine.batches (sweepTarget session) queue (max hint engine.settings.maxRows)
          (engine.settings.maxIterations - 1)) before := by
  unfold SweepEngine.sweep
  rcases tryRunExclusive_run session engine.manager (engine.lockId queue)
      (SweepEngine.batches (sweepTarget session) queue (max hint engine.settings.maxRows)
        (engine.settings.maxIterations - 1)) before with missed | wraps
  · exact .inl (missed.map _)
  · exact .inr ((wraps.map _).of_eq fun result => by cases result <;> rfl)

end Run

/-! Calls that run to their end and give back what they took. -/

namespace LocalLocks

variable {locks : LocalLocks} {key : LocalKey}

theorem tryTake_of_taken (taken : key ∈ locks.taken) :
    (locks.tryTake key).1 = false ∧ (locks.tryTake key).2.taken = locks.taken := by
  unfold tryTake
  dsimp only
  rw [if_pos taken]
  exact ⟨rfl, rfl⟩

/-- Taking a free lock and giving it back leaves the same locks taken. -/
theorem tryTake_of_free (free : key ∉ locks.taken) :
    (locks.tryTake key).1 = true ∧ ((locks.tryTake key).2.free key).taken = locks.taken := by
  unfold tryTake LocalLocks.free
  dsimp only
  rw [if_neg free]
  exact ⟨rfl, List.erase_cons_head key locks.taken⟩

end LocalLocks

namespace Run

variable {action : Run α} {cleanup : Run Unit} {answer : α} {before last : Database}

theorem cleaning_ran (ran : action.run.run before = (.ok answer, last)) :
    (cleaning Overflow cleanup action).run.run before = (.ok answer, last) := by
  unfold cleaning
  rw [run_tryCatch, ran]

/-- What runs to its end in a session of its own and gives back every lock leaves the locks as they were. -/
theorem inSession_ran {action : Nat → Run α} (issued : before.locks.Issued)
    (ran : (action before.locks.nextSession).run.run { before with locks := before.locks.openSession.2 } =
      (.ok answer, last)) (restored : last.locks = before.locks.openSession.2) :
    (inSession action).run.run before = (.ok answer, last) := by
  have opened : openSession.run.run before =
      (.ok before.locks.nextSession, { before with locks := before.locks.openSession.2 }) := rfl
  have closed : last.locks.closeSession before.locks.nextSession = last.locks := by
    rw [restored]
    exact AdvisoryLocks.closeSession_of_unheld fun lock hold found => Nat.ne_of_lt (issued lock hold found)
  unfold inSession
  rw [run_bind, opened]
  dsimp only
  rw [run_bind, cleaning_ran ran]
  exact congrArg (fun locks => (Except.ok answer, { last with locks := locks })) closed

section

variable {session : Nat} {manager : String} {lock : Int} {body : Run (Except Error α)} {result : Except Error α}
  {outcome : Except Error (Option α)}

theorem underAdvisory_missed (missed : (before.locks.tryLock session lock).1 = false) :
    ((sweepTarget session).underAdvisory lock body).run.run before = (.ok (.ok none), before) := by
  refine cleaning_ran ?_
  rw [run_bind, tryAdvisory_run, missed, AdvisoryLocks.tryLock_missed missed]
  rfl

theorem underAdvisory_ran (granted : (before.locks.tryLock session lock).1 = true)
    (ran : body.run.run { before with locks := (before.locks.tryLock session lock).2 } = (.ok result, last)) :
    ((sweepTarget session).underAdvisory lock body).run.run before =
      (.ok (result.map some), { last with locks := (last.locks.unlock session lock).2 }) := by
  refine cleaning_ran ?_
  rw [run_bind, tryAdvisory_run, granted]
  dsimp only
  rw [run_bind, ran]
  dsimp only
  unfold LockTiers.release
  rw [run_bind, unlock_run]
  rfl

/-- A run that no other task of the process keeps out is up to the advisory lock. -/
theorem exclusive_ran (free : (⟨manager, lock⟩ : LocalKey) ∉ before.localLocks.taken)
    (ran : ((sweepTarget session).underAdvisory lock body).run.run
      { before with localLocks := (before.localLocks.tryTake ⟨manager, lock⟩).2 } = (.ok outcome, last)) :
    ((sweepTarget session).tryRunExclusive [] manager lock fun _ => body).run.run before =
      (.ok outcome, { last with localLocks := last.localLocks.free ⟨manager, lock⟩ }) := by
  let key : LocalKey := ⟨manager, lock⟩
  have asked : ((sweepTarget session).takeLocal key).run.run before =
      (.ok (before.localLocks.tryTake key).1, { before with localLocks := (before.localLocks.tryTake key).2 }) := rfl
  unfold LockTiers.tryRunExclusive
  rw [if_neg List.not_mem_nil, run_bind, asked, (LocalLocks.tryTake_of_free free).1]
  dsimp only
  rw [if_pos rfl, run_bind]
  let taken : Database := { before with localLocks := (before.localLocks.tryTake key).2 }
  have guarded : ((sweepTarget session).guarded (.freeLocal key)
      ((sweepTarget session).underAdvisory lock body)).run.run taken = (.ok outcome, last) := cleaning_ran ran
  rw [guarded]
  rfl

/-- A run that gets both locks gives them back behind a body that does not look at locks. -/
theorem exclusive_granted (apart : (⟨manager, lock⟩ : LocalKey) ∉ before.localLocks.taken)
    (unheld : before.locks.isHeld lock = false)
    (ran : ∀ locks localLocks, body.run.run { before with locks := locks, localLocks := localLocks } =
      (.ok result, { last with locks := locks, localLocks := localLocks })) :
    ∃ known, ((sweepTarget session).tryRunExclusive [] manager lock fun _ => body).run.run before =
      (.ok (result.map some),
        { last with locks := before.locks, localLocks := ⟨known, before.localLocks.taken⟩ }) := by
  let locks := (before.locks.tryLock session lock).2
  let localLocks := (before.localLocks.tryTake ⟨manager, lock⟩).2
  have granted : (before.locks.tryLock session lock).1 = true :=
    congrArg Prod.fst (AdvisoryLocks.tryLock_of_free unheld session)
  have released : (locks.unlock session lock).2 = before.locks := AdvisoryLocks.unlock_tryLock unheld session
  have given : localLocks.free ⟨manager, lock⟩ = ⟨localLocks.known, before.localLocks.taken⟩ :=
    congrArg (LocalLocks.mk localLocks.known) (LocalLocks.tryTake_of_free apart).2
  have under := @underAdvisory_ran _ { before with localLocks := localLocks } _ session lock body result granted
    (ran locks localLocks)
  refine ⟨localLocks.known, (exclusive_ran apart under).trans ?_⟩
  dsimp only
  rw [released, given]

/-- A run that finds one of its locks taken leaves them all as they are. -/
theorem exclusive_missed
    (busy : ⟨manager, lock⟩ ∈ before.localLocks.taken ∨ (before.locks.tryLock session lock).1 = false) :
    ∃ known, ((sweepTarget session).tryRunExclusive [] manager lock fun _ => body).run.run before =
      (.ok (.ok none), { before with localLocks := ⟨known, before.localLocks.taken⟩ }) := by
  let key : LocalKey := ⟨manager, lock⟩
  by_cases mine : key ∈ before.localLocks.taken
  · obtain ⟨refused, same⟩ := LocalLocks.tryTake_of_taken mine
    have asked : ((sweepTarget session).takeLocal key).run.run before =
        (.ok (before.localLocks.tryTake key).1, { before with localLocks := (before.localLocks.tryTake key).2 }) := rfl
    unfold LockTiers.tryRunExclusive
    rw [if_neg List.not_mem_nil, run_bind, asked, refused, ← same]
    exact ⟨_, rfl⟩
  · rw [← (LocalLocks.tryTake_of_free mine).2]
    exact ⟨_, exclusive_ran mine (underAdvisory_missed (busy.resolve_left mine))⟩

end

end Run

end LeaseQueue
