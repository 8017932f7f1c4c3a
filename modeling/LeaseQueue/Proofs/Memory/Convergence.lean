import LeaseQueue.Proofs.Memory.Receives
import LeaseQueue.Proofs.Sweep.Loop

/-!
What sweeps of an in-memory table remove. The dead rows go from the lowest id upwards, as many as the batches of a sweep
can hold, and sweeping again and again leaves none of them.
-/
namespace LeaseQueue

namespace Table

variable {now : Instant} {row : StoredMessage} {rows : List StoredMessage}

/-- The dead among some rows, in their order. -/
def dead (now : Instant) (rows : List StoredMessage) : List StoredMessage :=
  rows.filter fun row => row.state now = .dead

theorem dead_cons_of_swept (swept : row.isSwept now) (rest : List StoredMessage) :
    dead now (row :: rest) = row :: dead now rest :=
  List.filter_cons_of_pos (decide_eq_true (StoredMessage.isSwept_iff.mp swept))

theorem dead_cons_of_kept (kept : ¬ row.isSwept now) (rest : List StoredMessage) :
    dead now (row :: rest) = dead now rest :=
  List.filter_cons_of_neg fun same => kept (StoredMessage.isSwept_iff.mpr (of_decide_eq_true same))

theorem dropSwept_cons_of_swept (swept : row.isSwept now) (limit : Nat) (rest : List StoredMessage) :
    dropSwept now (limit + 1) (row :: rest) = dropSwept now limit rest := if_pos swept

theorem dropSwept_cons_of_kept (kept : ¬ row.isSwept now) (limit : Nat) (rest : List StoredMessage) :
    dropSwept now limit (row :: rest) = row :: dropSwept now limit rest := by
  cases limit with
  | zero => rw [dropSwept_zero, dropSwept_zero]
  | succ limit => exact if_neg kept

theorem dropSwept_nil (now : Instant) (limit : Nat) : dropSwept now limit [] = [] := by
  cases limit <;> rfl

/-- What is left of the dead are the last of them. -/
theorem dead_dropSwept (now : Instant) (limit : Nat) (rows : List StoredMessage) :
    dead now (dropSwept now limit rows) = (dead now rows).drop limit := by
  induction rows generalizing limit with
  | nil => cases limit <;> rfl
  | cons row rest ih =>
    by_cases swept : row.isSwept now
    · cases limit with
      | zero => rw [dropSwept_zero, List.drop_zero]
      | succ limit => rw [dropSwept_cons_of_swept swept, dead_cons_of_swept swept, List.drop_succ_cons, ih]
    · rw [dropSwept_cons_of_kept swept, dead_cons_of_kept swept, dead_cons_of_kept swept, ih]

/-- What is dropped are the first of the dead. -/
theorem take_append_dropSwept_perm (now : Instant) (limit : Nat) (rows : List StoredMessage) :
    ((dead now rows).take limit ++ dropSwept now limit rows).Perm rows := by
  induction rows generalizing limit with
  | nil => rw [dropSwept_nil, List.append_nil, dead, List.filter_nil, List.take_nil]
  | cons row rest ih =>
    by_cases swept : row.isSwept now
    · cases limit with
      | zero => rw [dropSwept_zero, List.take_zero, List.nil_append]
      | succ limit =>
        rw [dropSwept_cons_of_swept swept, dead_cons_of_swept swept, List.take_succ_cons, List.cons_append]
        exact (ih limit).cons row
    · rw [dropSwept_cons_of_kept swept, dead_cons_of_kept swept]
      exact List.perm_middle.trans ((ih limit).cons row)

/-- As many rows are dropped as there are to drop. -/
theorem dropSwept_min (now : Instant) (limit : Nat) (rows : List StoredMessage) :
    dropSwept now (min (dead now rows).length limit) rows = dropSwept now limit rows := by
  induction rows generalizing limit with
  | nil => rw [dropSwept_nil, dropSwept_nil]
  | cons row rest ih =>
    by_cases swept : row.isSwept now
    · cases limit with
      | zero => rw [Nat.min_zero]
      | succ limit =>
        rw [dead_cons_of_swept swept, List.length_cons, Nat.add_min_add_right, dropSwept_cons_of_swept swept,
          dropSwept_cons_of_swept swept, ih]
    · rw [dead_cons_of_kept swept, dropSwept_cons_of_kept swept, dropSwept_cons_of_kept swept, ih]

/-- Dropping goes by the ids of the first dead rows. -/
theorem dropSwept_eq_filter (distinct : (rows.map StoredMessage.id).Nodup) (now : Instant) (limit : Nat) :
    dropSwept now limit rows =
      rows.filter fun row => row.id ∉ ((dead now rows).take limit).map StoredMessage.id := by
  induction rows generalizing limit with
  | nil => exact dropSwept_nil now limit
  | cons row rest ih =>
    obtain ⟨fresh, distinct⟩ := List.nodup_cons.mp distinct
    by_cases swept : row.isSwept now
    · cases limit with
      | zero =>
        rw [dropSwept_zero, List.take_zero]
        exact (List.filter_eq_self.mpr fun _ _ => decide_eq_true List.not_mem_nil).symm
      | succ limit =>
        rw [dropSwept_cons_of_swept swept, dead_cons_of_swept swept, List.take_succ_cons, List.map_cons,
          List.filter_cons_of_neg (by simp), ih distinct limit]
        refine List.filter_congr fun other member => ?_
        have different : other.id ≠ row.id := fun same => fresh (same ▸ List.mem_map_of_mem member)
        simp [different]
    · have apart : row.id ∉ ((dead now rest).take limit).map StoredMessage.id := fun member =>
        fresh ((((List.take_sublist _ _).trans List.filter_sublist).map _).subset member)
      rw [dropSwept_cons_of_kept swept, dead_cons_of_kept swept, List.filter_cons, if_pos (decide_eq_true apart),
        ih distinct limit]

end Table

/-- The same locks are held and taken, though sessions may have come and gone. -/
structure SameHolds (before after : Database) : Prop where
  holds : after.locks.holds = before.locks.holds
  taken : after.localLocks.taken = before.localLocks.taken

namespace Run

open Database

variable {before : Database}

section

variable {queue : QueueName} {now : Instant} {rows : Nat}

/-- A batch removes as many of the dead as it says. -/
theorem deleteDead_eq (queue : QueueName) (clock : before.now = .ok now) (limit : Nat) :
    let removed := min (Table.dead now (before.rows queue.table)).length limit
    (deleteDead queue limit).run.run before =
      (.ok (.ok removed), before.onRows queue (Table.dropSwept now removed)) := by
  intro removed
  rw [before.onRows_congr (Table.dropSwept_min now limit _)]
  unfold deleteDead onRows
  rw [run_bind, now_run, clock]
  dsimp only
  rw [run_bind, run_get]
  have counted : (before.rows queue.table).length - (Table.dropSwept now limit (before.rows queue.table)).length =
      removed := by
    rw [← (Table.take_append_dropSwept_perm now limit _).length_eq, List.length_append, Nat.add_sub_cancel,
      List.length_take, Nat.min_comm]
  rw [← counted]
  dsimp only
  cases found : before.table? queue with
  | none =>
    rw [rows_of_none found, Table.dropSwept_nil]
    rfl
  | some table =>
    rw [rows_of_table found]
    rfl

/-- Batches remove what one of their total size would, one batch more than are filled unless there may be no more. -/
theorem batches_eq (session : Nat) (queue : QueueName) (clock : before.now = .ok now) (positive : 0 < rows)
    (more : Nat) :
    let found := (Table.dead now (before.rows queue.table)).length
    let removed := min found (rows * (more + 1))
    (SweepEngine.batches (sweepTarget session) queue rows more).run.run before =
      (.ok (.ok (removed, min (more + 1) (found / rows + 1))),
        before.onRows queue (Table.dropSwept now removed)) := by
  have batch_run {database : Database} (clock : database.now = .ok now) :
      ((sweepTarget session).deleteDead queue rows).run.run database = _ := deleteDead_eq queue clock rows
  induction more generalizing before with
  | zero =>
    intro found removed
    have once : removed = min found rows := congrArg (min found) (Nat.mul_one rows)
    unfold SweepEngine.batches
    rw [run_bind, batch_run clock, once, Nat.zero_add, Nat.min_eq_left (Nat.le_add_left 1 _)]
    rfl
  | succ more ih =>
    intro found removed
    unfold SweepEngine.batches
    rw [run_bind, batch_run clock]
    dsimp only
    by_cases short : found < rows
    · have all : removed = found :=
        Nat.min_eq_left (Nat.le_trans (Nat.le_of_lt short) (Nat.le_mul_of_pos_right rows (Nat.succ_pos _)))
      have batch : min found rows = found := Nat.min_eq_left (Nat.le_of_lt short)
      rw [if_pos (Nat.lt_of_le_of_lt (Nat.min_le_left found rows) short), all, batch, Nat.div_eq_of_lt short,
        Nat.min_eq_right (Nat.le_add_left 1 _)]
      rfl
    · have full : rows ≤ found := Nat.not_lt.mp short
      have batch : min found rows = rows := Nat.min_eq_right full
      let middle := before.onRows queue (Table.dropSwept now rows)
      have later : middle.now = .ok now := (before.onRows_moves queue _).now.trans clock
      have left : (Table.dead now (middle.rows queue.table)).length = found - rows := by
        rw [before.rows_onRows (Table.dropSwept_nil now rows), Table.dead_dropSwept, List.length_drop]
      have rest := ih later
      rw [left] at rest
      have onward : min (more + 2) (found / rows + 1) = min (more + 1) ((found - rows) / rows + 1) + 1 := by
        rw [Nat.div_eq_sub_div positive full]
        exact Nat.add_min_add_right (more + 1) _ 1
      have all : removed = rows + min (found - rows) (rows * (more + 1)) := by
        rw [← Nat.add_min_add_left, Nat.add_sub_cancel' full, Nat.add_comm rows, ← Nat.mul_succ]
      rw [batch, if_neg (Nat.lt_irrefl rows), run_bind, rest, onward, all]
      refine Prod.ext rfl ((before.onRows_onRows).trans (before.onRows_congr ?_))
      rw [Function.comp_apply, Table.dropSwept_dropSwept]

end

/-- The number of rows that one sweep may remove. -/
def capacity (engine : SweepEngine) (hint : Nat) : Nat :=
  max hint engine.settings.maxRows * engine.settings.maxIterations

/-- The queue is being swept: another task of the process or another session has the lock. -/
def Busy (engine : SweepEngine) (queue : Queue) (database : Database) : Prop :=
  (⟨engine.manager, engine.lockId queue.name⟩ : LocalKey) ∈ database.localLocks.taken ∨
    database.locks.isHeld (engine.lockId queue.name) = true

section

variable {engine : SweepEngine} {queue : Queue} {now : Instant}

/-- A sweep that finds a lock taken is over. -/
theorem sweep_missed (issued : before.locks.Issued) (busy : Busy engine queue before) (hint : Nat) :
    ∃ known, (sweep engine queue hint).run.run before = (.ok (.ok .lockNotAcquired),
      { before with locks := before.locks.openSession.2, localLocks := ⟨known, before.localLocks.taken⟩ }) := by
  let session := before.locks.nextSession
  have missed : ⟨engine.manager, engine.lockId queue.name⟩ ∈ before.localLocks.taken ∨
      (before.locks.openSession.2.tryLock session (engine.lockId queue.name)).1 = false :=
    busy.imp_right fun held => AdvisoryLocks.tryLock_of_held held fun hold found =>
      Nat.ne_of_lt (issued _ hold found)
  obtain ⟨known, ran⟩ := @exclusive_missed _ { before with locks := before.locks.openSession.2 } session engine.manager
    (engine.lockId queue.name) (SweepEngine.batches (sweepTarget session) queue.name
      (max hint engine.settings.maxRows) (engine.settings.maxIterations - 1)) missed
  refine ⟨known, inSession_ran issued ?_ rfl⟩
  unfold SweepEngine.sweep
  rw [run_bind, ran]
  rfl

/-- A sweep that gets its locks removes its batches of the dead and leaves the locks as they were. -/
theorem sweep_swept (issued : before.locks.Issued) (idle : ¬ Busy engine queue before)
    (valid : engine.settings.validate = .ok ()) (clock : before.now = .ok now) (hint : Nat) :
    let rows := max hint engine.settings.maxRows
    let found := (Table.dead now (before.rows queue.table)).length
    let removed := min found (capacity engine hint)
    ∃ known, (sweep engine queue hint).run.run before =
      (.ok (.ok (.completed removed (min engine.settings.maxIterations (found / rows + 1)))),
        { before.onRows queue.name (Table.dropSwept now removed) with
          locks := before.locks.openSession.2, localLocks := ⟨known, before.localLocks.taken⟩ }) := by
  intro rows found removed
  obtain ⟨apart, free⟩ := not_or.mp idle
  obtain ⟨some_rows, capped⟩ := SweepSettings.positive_of_valid valid
  have positive : 0 < rows := Nat.lt_of_lt_of_le some_rows (Nat.le_max_right ..)
  have again : engine.settings.maxIterations - 1 + 1 = engine.settings.maxIterations := Nat.sub_add_cancel capped
  have swept (locks : AdvisoryLocks) (localLocks : LocalLocks) :
      (SweepEngine.batches (sweepTarget before.locks.nextSession) queue.name rows
        (engine.settings.maxIterations - 1)).run.run { before with locks := locks, localLocks := localLocks } =
      (.ok (.ok (removed, min engine.settings.maxIterations (found / rows + 1))),
        { before.onRows queue.name (Table.dropSwept now removed) with locks := locks, localLocks := localLocks }) := by
    have batches := @batches_eq { before with locks := locks, localLocks := localLocks } now rows
      before.locks.nextSession queue.name clock positive (engine.settings.maxIterations - 1)
    dsimp only at batches
    rw [again, onRows_withLocks] at batches
    exact batches
  obtain ⟨known, ran⟩ := @exclusive_granted _ { before with locks := before.locks.openSession.2 } _
    before.locks.nextSession engine.manager (engine.lockId queue.name) _ _ apart (Bool.eq_false_iff.mpr free) swept
  refine ⟨known, inSession_ran issued ?_ rfl⟩
  unfold SweepEngine.sweep
  rw [run_bind, ran]
  rfl

/-- A queue that is free to be swept, at a time that can be read. -/
structure Sweepable (engine : SweepEngine) (queue : Queue) (now : Instant) (database : Database) : Prop where
  clock : database.now = .ok now
  ascending : Table.Ascending (database.rows queue.table)
  issued : database.locks.Issued
  idle : ¬ Busy engine queue database

/-- A sweep takes the first of the dead and leaves the queue free to be swept. -/
theorem sweep_step (valid : engine.settings.validate = .ok ()) (ready : Sweepable engine queue now before)
    (hint : Nat) :
    let found := Table.dead now (before.rows queue.table)
    let removed := min found.length (capacity engine hint)
    let after := ((sweep engine queue hint).run.run before).2
    ((sweep engine queue hint).run.run before).1 = .ok (.ok (.completed removed
        (min engine.settings.maxIterations (found.length / max hint engine.settings.maxRows + 1)))) ∧
      SameButLocks (before.onRows queue.name (Table.dropSwept now removed)) after ∧
      SameHolds before after ∧ Sweepable engine queue now after ∧
      Table.dead now (after.rows queue.table) = found.drop removed := by
  intro found removed after
  obtain ⟨known, ran⟩ := sweep_swept ready.issued ready.idle valid ready.clock hint
  have left : after.rows queue.table = Table.dropSwept now removed (before.rows queue.table) := by
    change (((sweep engine queue hint).run.run before).2).rows queue.table = _
    rw [ran]
    exact before.rows_onRows (Table.dropSwept_nil now removed)
  have taken : after = { before.onRows queue.name (Table.dropSwept now removed) with
      locks := before.locks.openSession.2, localLocks := ⟨known, before.localLocks.taken⟩ } := congrArg Prod.snd ran
  refine ⟨congrArg Prod.fst ran, ⟨_, _, taken⟩, ?_, ?_, ?_⟩
  · rw [taken]
    exact ⟨rfl, rfl⟩
  · refine ⟨?_, ?_, ?_, ?_⟩
    · rw [taken]
      exact (before.onRows_moves queue.name _).now.trans ready.clock
    · rw [left]
      exact ready.ascending.sublist (Table.dropSwept_sublist now removed _)
    · rw [taken]
      exact fun lock hold found => Nat.lt_succ_of_lt (ready.issued lock hold found)
    · rw [taken]
      exact ready.idle
  · rw [left, Table.dead_dropSwept]

/-- So many sweeps leave none of the dead that can remove as many. -/
theorem sweeps_clear (valid : engine.settings.validate = .ok ()) (hint calls : Nat)
    (ready : Sweepable engine queue now before)
    (enough : (Table.dead now (before.rows queue.table)).length ≤ calls * capacity engine hint) :
    let later := (fun database => ((sweep engine queue hint).run.run database).2)^[calls] before
    Sweepable engine queue now later ∧ Table.dead now (later.rows queue.table) = [] := by
  induction calls generalizing before with
  | zero =>
    rw [Nat.zero_mul] at enough
    exact ⟨ready, List.eq_nil_of_length_eq_zero (Nat.le_zero.mp enough)⟩
  | succ calls ih =>
    obtain ⟨_, _, _, again, left⟩ := sweep_step valid ready hint
    rw [Nat.succ_mul] at enough
    rw [Function.iterate_succ_apply]
    refine ih again ?_
    rw [left, List.length_drop]
    omega

/-- Once there are no dead, a sweep runs one batch that removes nothing. -/
theorem sweep_cleared (valid : engine.settings.validate = .ok ()) (ready : Sweepable engine queue now before)
    (cleared : Table.dead now (before.rows queue.table) = []) (hint : Nat) :
    ((sweep engine queue hint).run.run before).1 = .ok (.ok (.completed 0 1)) := by
  obtain ⟨answer, _⟩ := sweep_step valid ready hint
  rw [answer, cleared, List.length_nil, Nat.zero_min, Nat.zero_div, Nat.zero_add,
    Nat.min_eq_right (SweepSettings.positive_of_valid valid).2]

/-- A sweep misses if the lock of the queue is taken, and otherwise removes the dead of lowest ids, as many as its
batches hold, so that sweeping again and again removes them all. The loop of every target stops at the first batch that
is not full, or at the last one that it may run, or at one that fails. -/
theorem sweep_converges (engine : SweepEngine) (valid : engine.settings.validate = .ok ()) (hint : Nat) :
    let rows := max hint engine.settings.maxRows
    let cap := engine.settings.maxIterations
    (∀ {m : Type → Type} [Monad m] [LawfulMonad m] (target : SweepTarget m) (queue : QueueName),
      engine.sweep target queue hint = (do
        let result ← target.tryRunExclusive [] engine.manager (engine.lockId queue) fun _ =>
          (engine.loop queue hint).run fun asked => target.deleteDead asked.1 asked.2
        pure (result.map SweepOutcome.ofLoop))) ∧
    (∀ queue exchanges outcome, (engine.loop queue hint).Ends exchanges outcome ↔
      ∃ full last, SweepEngine.LoopEnds rows cap full last ∧
        exchanges = (full.map Except.ok ++ [last]).map (⟨(queue, rows), ·⟩) ∧
        outcome = last.map fun batch => (full.sum + batch, full.length + 1)) ∧
    ∀ (queue : Queue) (now : Instant) (before : Database), before.now = .ok now →
      Table.Ascending (before.rows queue.table) → before.locks.Issued →
      let swept := (sweep engine queue hint).run.run before
      let dead := Table.dead now (before.rows queue.table)
      let removed := min dead.length (rows * cap)
      SameHolds before swept.2 ∧
      (Busy engine queue before → swept.1 = .ok (.ok .lockNotAcquired) ∧ SameButLocks before swept.2) ∧
      (¬ Busy engine queue before →
        swept.1 = .ok (.ok (.completed removed (min cap (dead.length / rows + 1)))) ∧
        SameButLocks (before.onRows queue.name
          (·.filter fun row => row.id ∉ (dead.take removed).map StoredMessage.id)) swept.2 ∧
        (∀ gone ∈ dead.take removed, ∀ left ∈ dead.drop removed, gone.id < left.id) ∧
        ¬ Busy engine queue swept.2 ∧
        ∃ calls, ∀ more, calls ≤ more →
          let later := (fun database => ((sweep engine queue hint).run.run database).2)^[more] before
          Table.dead now (later.rows queue.table) = [] ∧
            ((sweep engine queue hint).run.run later).1 = .ok (.ok (.completed 0 1))) := by
  intro rows cap
  refine ⟨fun target queue => engine.sweep_eq_run target queue hint, fun queue exchanges outcome =>
    SweepEngine.loop_ends_iff valid, ?_⟩
  intro queue now before clock ascending issued swept dead removed
  by_cases busy : Busy engine queue before
  · obtain ⟨known, ran⟩ := sweep_missed issued busy hint
    have taken : swept = _ := ran
    rw [taken]
    exact ⟨⟨rfl, rfl⟩, fun _ => ⟨rfl, _, _, rfl⟩, fun idle => absurd busy idle⟩
  · have ready : Sweepable engine queue now before := ⟨clock, ascending, issued, busy⟩
    obtain ⟨answer, same, holds, again, _⟩ := sweep_step valid ready hint
    refine ⟨holds, fun taken => absurd taken busy, fun _ => ⟨answer, ?_, ?_, again.idle, dead.length, ?_⟩⟩
    · rw [← before.onRows_congr (Table.dropSwept_eq_filter ascending.nodup now removed)]
      exact same
    · have order : Table.Ascending (dead.take removed ++ dead.drop removed) := by
        rw [List.take_append_drop]
        exact ascending.sublist List.filter_sublist
      exact (List.pairwise_append.mp order).2.2
    · intro more enough
      obtain ⟨some_rows, some_batches⟩ := SweepSettings.positive_of_valid valid
      have room : 0 < capacity engine hint :=
        Nat.mul_pos (Nat.lt_of_lt_of_le some_rows (Nat.le_max_right ..)) some_batches
      obtain ⟨last, cleared⟩ := sweeps_clear valid hint more ready
        (Nat.le_trans enough (Nat.le_mul_of_pos_right more room))
      exact ⟨cleared, sweep_cleared valid last cleared hint⟩

end

end Run

/-- The one dead message goes, and the sweep leaves its batch of a thousand half-empty. -/
theorem dead_chore_removed :
    let engine : SweepEngine := ⟨.default, ""⟩
    let swept := (Run.sweep engine chores 0).run.run twoChores
    engine.settings.validate = .ok () ∧ ¬ Run.Busy engine chores twoChores ∧
      swept.1 = .ok (.ok (.completed 1 1)) ∧ SameHolds twoChores swept.2 ∧ ¬ Run.Busy engine chores swept.2 := by
  intro engine swept
  have valid : engine.settings.validate = .ok () := by decide +kernel
  have ascending : Table.Ascending (twoChores.rows chores.table) := by
    unfold twoChores
    rw [show chores.table = chores.name.table from rfl, Database.rows_setTable]
    exact List.pairwise_pair.mpr (by decide)
  have idle : ¬ Run.Busy engine chores twoChores := by
    unfold Run.Busy
    decide +kernel
  have issued : twoChores.locks.Issued := by
    intro lock hold found
    have unheld : twoChores.locks.holds[lock]? = none := Std.ExtTreeMap.getElem?_empty
    rw [unheld] at found
    cases found
  obtain ⟨_, _, sweeps⟩ := Run.sweep_converges engine valid 0
  obtain ⟨holds, _, completes⟩ := sweeps chores _ twoChores rfl ascending issued
  obtain ⟨answer, _, _, again, _⟩ := completes idle
  have one : (Table.dead (twoChores.wallClock + twoChores.offset) (twoChores.rows chores.table)).length = 1 := by
    decide +kernel
  have totals : SweepOutcome.completed (min 1 (max 0 engine.settings.maxRows * engine.settings.maxIterations))
      (min engine.settings.maxIterations (1 / max 0 engine.settings.maxRows + 1)) = .completed 1 1 := by decide +kernel
  rw [one, totals] at answer
  exact ⟨valid, idle, answer, holds, again⟩

end LeaseQueue
