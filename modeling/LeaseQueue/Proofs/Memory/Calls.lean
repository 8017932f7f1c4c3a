import LeaseQueue.Proofs.Memory.Batch
import LeaseQueue.Proofs.Memory.Sessions

/-!
What each call does to a database: one table moves, its rows are extended, filtered or changed in place, and all else
stays as it is.
-/
namespace LeaseQueue

namespace Database

/-- The rows of a table, none if it does not exist. -/
def rows (database : Database) (name : String) : List StoredMessage := (database.tables[name]?).elim [] Table.rows

/-- The ids that a table has asked its sequence for; a table that does not exist has not asked. -/
def HasDrawn (database : Database) (name : String) (calls : Nat) : Prop :=
  match database.tables[name]? with
  | some table => table.sequence = .afterCalls database.layout database.bucket calls
  | none => calls = 0

/-- What a sweep leaves when it removes at most `limit` rows. -/
def dropSwept (database : Database) (name : String) (limit : Nat) : List StoredMessage :=
  match database.now with
  | .ok now => Table.dropSwept now limit (database.rows name)
  | .error _ => database.rows name

/-- Nothing but the locks and one table may change. -/
structure Moves (name : String) (before after : Database) : Prop where
  layout : after.layout = before.layout
  bucket : after.bucket = before.bucket
  wallClock : after.wallClock = before.wallClock
  offset : after.offset = before.offset
  others : ∀ other, other ≠ name → after.tables[other]? = before.tables[other]?

/-- The table may change, but takes no ids. -/
structure Keeps (name : String) (before after : Database) : Prop extends Moves name before after where
  drawn : ∀ {calls}, before.HasDrawn name calls → after.HasDrawn name calls

/-- Rows may be removed, but only as a sweep does it. -/
structure Sweeps (name : String) (before after : Database) : Prop extends Keeps name before after where
  rows : ∃ limit, after.rows name = before.dropSwept name limit

/-- Rows may change in place, but nothing of what was sent does. -/
structure Rewrites (name : String) (change : StoredMessage → StoredMessage) (before after : Database) : Prop
    extends Keeps name before after where
  rows : after.rows name = (before.rows name).map change
  receipts : ∀ row ∈ before.rows name, (change row).receipt = row.receipt

variable {name : String} {before middle after : Database}

theorem Moves.refl (name : String) (database : Database) : Moves name database database :=
  ⟨rfl, rfl, rfl, rfl, fun _ _ => rfl⟩

theorem Moves.trans (earlier : Moves name before middle) (later : Moves name middle after) : Moves name before after :=
  ⟨later.layout.trans earlier.layout, later.bucket.trans earlier.bucket, later.wallClock.trans earlier.wallClock,
    later.offset.trans earlier.offset, fun other apart => (later.others other apart).trans (earlier.others other apart)⟩

theorem Moves.bind {α β : Type} {action : Run α} {next : α → Run β}
    (earlier : Moves name before (action.run.run before).2)
    (later : ∀ result middle, Moves name middle ((next result).run.run middle).2) :
    Moves name before ((action >>= next).run.run before).2 := by
  rw [run_bind]
  rcases ran : action.run.run before with ⟨overflow | result, middle⟩
  · rw [ran] at earlier
    exact earlier
  · rw [ran] at earlier
    exact earlier.trans (later result middle)

theorem Moves.now (moves : Moves name before after) : after.now = before.now := by
  unfold Database.now
  rw [moves.wallClock, moves.offset]

theorem Moves.rows (moves : Moves name before after) {other : String} (apart : other ≠ name) :
    after.rows other = before.rows other := by
  unfold Database.rows
  rw [moves.others other apart]

theorem Keeps.refl (name : String) (database : Database) : Keeps name database database :=
  ⟨.refl name database, fun drawn => drawn⟩

theorem Keeps.trans (earlier : Keeps name before middle) (later : Keeps name middle after) : Keeps name before after :=
  ⟨earlier.toMoves.trans later.toMoves, fun drawn => later.drawn (earlier.drawn drawn)⟩

theorem dropSwept_zero (database : Database) (name : String) : database.dropSwept name 0 = database.rows name := by
  unfold dropSwept
  split
  · exact Table.dropSwept_zero _ _
  · rfl

theorem Sweeps.refl (name : String) (database : Database) : Sweeps name database database :=
  ⟨.refl name database, 0, (database.dropSwept_zero name).symm⟩

theorem Sweeps.trans (earlier : Sweeps name before middle) (later : Sweeps name middle after) :
    Sweeps name before after := by
  obtain ⟨first, dropped⟩ := earlier.rows
  obtain ⟨second, more⟩ := later.rows
  refine ⟨earlier.toKeeps.trans later.toKeeps, first + second, ?_⟩
  rw [more]
  unfold dropSwept at dropped ⊢
  rw [earlier.now, dropped]
  cases before.now with
  | error overflow => rfl
  | ok now => exact Table.dropSwept_dropSwept now first second _

theorem dropSwept_sublist (database : Database) (name : String) (limit : Nat) :
    (database.dropSwept name limit).Sublist (database.rows name) := by
  unfold dropSwept
  split
  · exact Table.dropSwept_sublist _ _ _
  · exact .refl _

theorem Sweeps.sublist (sweeps : Sweeps name before after) : (after.rows name).Sublist (before.rows name) := by
  obtain ⟨limit, dropped⟩ := sweeps.rows
  rw [dropped]
  exact before.dropSwept_sublist name limit

/-- A sweep removes nothing but dead messages. -/
theorem Sweeps.dead (sweeps : Sweeps name before after) {row : StoredMessage} (present : row ∈ before.rows name)
    (gone : row ∉ after.rows name) : ∃ now, before.now = .ok now ∧ row.isSwept now := by
  obtain ⟨limit, dropped⟩ := sweeps.rows
  rw [dropped] at gone
  unfold dropSwept at gone
  split at gone
  · rename_i now clock
    refine ⟨now, clock, ?_⟩
    cases swept : row.isSwept now with
    | true => rfl
    | false => exact absurd (Table.mem_dropSwept present swept) gone
  · exact absurd present gone

theorem Rewrites.refl (name : String) (database : Database) : Rewrites name id database database :=
  ⟨.refl name database, (List.map_id _).symm, fun _ _ => rfl⟩

theorem SameButLocks.keeps (same : SameButLocks before after) (name : String) : Keeps name before after := by
  obtain ⟨_, _, rfl⟩ := same
  exact ⟨⟨rfl, rfl, rfl, rfl, fun _ _ => rfl⟩, fun drawn => drawn⟩

theorem SameButLocks.rows (same : SameButLocks before after) (name : String) : after.rows name = before.rows name := by
  obtain ⟨_, _, rfl⟩ := same
  rfl

theorem SameButLocks.sweeps (same : SameButLocks before after) (name : String) : Sweeps name before after :=
  ⟨SameButLocks.keeps same name, 0, (SameButLocks.rows same name).trans (before.dropSwept_zero name).symm⟩

/-! Tables that are written back. -/

theorem tables_setTable (database : Database) (queue : QueueName) (table : Table) (name : String) :
    (database.setTable queue table).tables[name]? =
      if queue.table = name then some table else database.tables[name]? := by
  unfold setTable
  rw [Std.ExtTreeMap.getElem?_insert]
  simp

theorem rows_setTable (database : Database) (queue : QueueName) (table : Table) :
    (database.setTable queue table).rows queue.table = table.rows := by
  unfold rows
  rw [tables_setTable, if_pos rfl]
  rfl

theorem rows_of_table {database : Database} {queue : QueueName} {table : Table}
    (found : database.table? queue = some table) : database.rows queue.table = table.rows := by
  unfold rows
  rw [show database.tables[queue.table]? = some table from found]
  rfl

theorem rows_of_none {database : Database} {queue : QueueName} (absent : database.table? queue = none) :
    database.rows queue.table = [] := by
  unfold rows
  rw [show database.tables[queue.table]? = none from absent]
  rfl

/-- Of two tables written back under one name the second one stays. -/
theorem setTable_setTable (database : Database) (queue : QueueName) (first second : Table) :
    (database.setTable queue first).setTable queue second = database.setTable queue second := by
  refine congrArg (fun tables => { database with tables := tables }) (Std.ExtTreeMap.ext_getElem? fun key => ?_)
  simp only [setTable, Std.ExtTreeMap.getElem?_insert]
  split <;> rfl

theorem setTable_moves (database : Database) (queue : QueueName) (table : Table) :
    Moves queue.table database (database.setTable queue table) :=
  ⟨rfl, rfl, rfl, rfl, fun other apart => by rw [tables_setTable, if_neg (Ne.symm apart)]⟩

theorem setTable_hasDrawn {database : Database} {queue : QueueName} {table : Table} {calls : Nat}
    (drawn : table.sequence = .afterCalls database.layout database.bucket calls) :
    (database.setTable queue table).HasDrawn queue.table calls := by
  unfold HasDrawn
  rw [tables_setTable, if_pos rfl]
  exact drawn

theorem setTable_keeps {database : Database} {queue : QueueName} {table changed : Table}
    (found : database.table? queue = some table) (same : changed.sequence = table.sequence) :
    Keeps queue.table database (database.setTable queue changed) := by
  refine ⟨database.setTable_moves queue changed, fun drawn => setTable_hasDrawn (same.trans ?_)⟩
  unfold HasDrawn at drawn
  rw [show database.tables[queue.table]? = some table from found] at drawn
  exact drawn

/-- The rows of a queue after a step on them; where there is no table, there is nothing to step on. -/
def onRows (database : Database) (queue : QueueName) (step : List StoredMessage → List StoredMessage) : Database :=
  match database.table? queue with
  | none => database
  | some table => database.setTable queue { table with rows := step table.rows }

section

variable {queue : QueueName} {first second : List StoredMessage → List StoredMessage}

theorem onRows_moves (database : Database) (queue : QueueName) (step : List StoredMessage → List StoredMessage) :
    Moves queue.table database (database.onRows queue step) := by
  unfold onRows
  cases database.table? queue with
  | none => exact .refl _ _
  | some table => exact database.setTable_moves queue _

theorem onRows_table (database : Database) (queue : QueueName) (step : List StoredMessage → List StoredMessage) :
    (database.onRows queue step).table? queue =
      (database.table? queue).map fun table => { table with rows := step table.rows } := by
  unfold onRows
  cases found : database.table? queue with
  | none => exact found
  | some table => exact (tables_setTable database queue _ queue.table).trans (if_pos rfl)

theorem rows_onRows (database : Database) (nothing : first [] = []) :
    (database.onRows queue first).rows queue.table = first (database.rows queue.table) := by
  have found := database.onRows_table queue first
  unfold rows
  unfold table? at found
  rw [found]
  cases database.tables[queue.table]? with
  | none => exact nothing.symm
  | some table => rfl

theorem onRows_others (database : Database) (queue : QueueName) (step : List StoredMessage → List StoredMessage) :
    database.onRows queue step = { database with tables := (database.onRows queue step).tables } := by
  unfold onRows
  cases database.table? queue <;> rfl

theorem onRows_congr (database : Database)
    (same : first (database.rows queue.table) = second (database.rows queue.table)) :
    database.onRows queue first = database.onRows queue second := by
  unfold onRows
  cases found : database.table? queue with
  | none => rfl
  | some table =>
    rw [rows_of_table found] at same
    dsimp only
    rw [same]

/-- Locks do not matter to rows. -/
theorem onRows_withLocks (database : Database) (queue : QueueName) (step : List StoredMessage → List StoredMessage)
    (locks : AdvisoryLocks) (localLocks : LocalLocks) :
    ({ database with locks := locks, localLocks := localLocks } : Database).onRows queue step =
      { database.onRows queue step with locks := locks, localLocks := localLocks } := by
  unfold onRows table?
  dsimp only
  cases database.tables[queue.table]? <;> rfl

/-- Two steps on the rows of a queue are one. -/
theorem onRows_onRows (database : Database) :
    (database.onRows queue first).onRows queue second = database.onRows queue (second ∘ first) := by
  have again := database.onRows_table queue first
  unfold onRows at again ⊢
  cases found : database.table? queue with
  | none => rw [found]
  | some table =>
    rw [found] at again
    dsimp only [Option.map_some] at again ⊢
    rw [again]
    exact setTable_setTable ..

end

end Database

open Database

namespace Run

variable {queue : QueueName} {before after : Database}

theorem now_run (database : Database) :
    now.run.run database =
      match database.now with
      | .ok instant => (.ok instant, database)
      | .error overflow => (.error overflow, database) := by
  unfold now
  rw [run_bind, run_get]
  dsimp only
  cases database.now <;> rfl

theorem now_moves (name : String) (before : Database) : Moves name before (now.run.run before).2 := by
  rw [now_run]
  cases before.now <;> exact .refl _ _

/-! Sweeps. -/

theorem deleteDead_run (limit : Nat) {outcome : Except Overflow (Except Error Nat)}
    (ran : (deleteDead queue limit).run.run before = (outcome, after)) :
    Sweeps queue.table before after ∧ ∀ removed, outcome = .ok (.ok removed) →
      (before.rows queue.table).length = removed + (after.rows queue.table).length := by
  unfold deleteDead at ran
  rw [run_bind, now_run] at ran
  cases clock : before.now with
  | error overflow =>
    rw [clock] at ran
    cases ran
    exact ⟨.refl _ _, nofun⟩
  | ok instant =>
    rw [clock] at ran
    dsimp only at ran
    rw [run_bind, run_get] at ran
    dsimp only at ran
    cases found : before.table? queue with
    | none =>
      rw [found] at ran
      cases ran
      refine ⟨.refl _ _, fun removed same => ?_⟩
      cases same
      exact (Nat.zero_add _).symm
    | some table =>
      rw [found] at ran
      cases ran
      have left : (before.setTable queue (table.deleteDead instant limit).2).rows queue.table =
          Table.dropSwept instant limit (before.rows queue.table) := by
        rw [rows_setTable, rows_of_table found]
        rfl
      refine ⟨⟨setTable_keeps found rfl, limit, ?_⟩, fun removed same => ?_⟩
      · unfold dropSwept
        rw [clock]
        exact left
      · cases same
        have shorter := (Table.dropSwept_sublist instant limit table.rows).length_le
        rw [left, rows_of_table found]
        change table.rows.length = table.rows.length - (Table.dropSwept instant limit table.rows).length + _
        omega

theorem batches_run (session limit more : Nat) {outcome : Except Overflow (Except Error (Nat × Nat))}
    (ran : (SweepEngine.batches (sweepTarget session) queue limit more).run.run before = (outcome, after)) :
    Sweeps queue.table before after ∧ ∀ removed iterations, outcome = .ok (.ok (removed, iterations)) →
      (before.rows queue.table).length = removed + (after.rows queue.table).length := by
  induction more generalizing before outcome after with
  | zero =>
    unfold SweepEngine.batches at ran
    rw [run_bind] at ran
    rcases batch : ((sweepTarget session).deleteDead queue limit).run.run before with ⟨result, last⟩
    obtain ⟨sweeps, counted⟩ := deleteDead_run limit batch
    rw [batch] at ran
    rcases result with overflow | failure | removed
    · cases ran
      exact ⟨sweeps, nofun⟩
    · cases ran
      exact ⟨sweeps, nofun⟩
    · cases ran
      refine ⟨sweeps, fun total iterations same => ?_⟩
      cases same
      exact counted removed rfl
  | succ more ih =>
    unfold SweepEngine.batches at ran
    rw [run_bind] at ran
    rcases batch : ((sweepTarget session).deleteDead queue limit).run.run before with ⟨result, middle⟩
    obtain ⟨sweeps, counted⟩ := deleteDead_run limit batch
    rw [batch] at ran
    rcases result with overflow | failure | removed
    · cases ran
      exact ⟨sweeps, nofun⟩
    · cases ran
      exact ⟨sweeps, nofun⟩
    · dsimp only at ran
      split at ran
      · cases ran
        refine ⟨sweeps, fun total iterations same => ?_⟩
        cases same
        exact counted removed rfl
      · rw [run_bind] at ran
        rcases rest : (SweepEngine.batches (sweepTarget session) queue limit more).run.run middle with ⟨result, last⟩
        obtain ⟨others, found⟩ := ih rest
        rw [rest] at ran
        rcases result with overflow | failure | ⟨later, iterations⟩
        · cases ran
          exact ⟨sweeps.trans others, nofun⟩
        · cases ran
          exact ⟨sweeps.trans others, nofun⟩
        · cases ran
          refine ⟨sweeps.trans others, fun total count same => ?_⟩
          cases same
          rw [counted removed rfl, found later iterations rfl, Nat.add_assoc]

theorem engine_sweep_run (engine : SweepEngine) (session hint : Nat)
    {outcome : Except Overflow (Except Error SweepOutcome)}
    (ran : (engine.sweep (sweepTarget session) queue hint).run.run before = (outcome, after)) :
    Sweeps queue.table before after ∧ ∀ result, outcome = .ok (.ok result) →
      (before.rows queue.table).length = result.removed + (after.rows queue.table).length := by
  rcases engine_sweep_wraps engine session queue hint before with
    ⟨taken, same, last, answer⟩ | ⟨taken, same, last, answer⟩
  · rw [ran] at last answer
    refine ⟨(SameButLocks.sweeps same _).trans (SameButLocks.sweeps last _), fun result found => ?_⟩
    obtain rfl : Except.ok (.ok result) = outcome := found.symm
    cases answer
    have unchanged : SameButLocks before after := same.trans last
    rw [SameButLocks.rows unchanged]
    exact (Nat.zero_add _).symm
  · rw [ran] at last answer
    rcases body : (SweepEngine.batches (sweepTarget session) queue (max hint engine.settings.maxRows)
      (engine.settings.maxIterations - 1)).run.run taken with ⟨result, swept⟩
    rw [body] at last answer
    obtain ⟨sweeps, counted⟩ := batches_run session _ _ body
    refine ⟨((SameButLocks.sweeps same _).trans sweeps).trans (SameButLocks.sweeps last _), fun found given => ?_⟩
    rcases result with overflow | failure | ⟨removed, iterations⟩
    · cases answer.symm.trans given
    · cases answer.symm.trans given
    · cases answer.symm.trans given
      rw [SameButLocks.rows last, ← SameButLocks.rows same, counted removed iterations rfl]
      rfl

theorem sweep_run (engine : SweepEngine) (queue : Queue) (hint : Nat)
    {outcome : Except Overflow (Except Error SweepOutcome)}
    (ran : (sweep engine queue hint).run.run before = (outcome, after)) :
    Sweeps queue.table before after ∧ ∀ result, outcome = .ok (.ok result) →
      (before.rows queue.table).length = result.removed + (after.rows queue.table).length := by
  obtain ⟨taken, same, last, answer⟩ :=
    inSession_run (fun session => engine.sweep (sweepTarget session) queue.name hint) before
  change SameButLocks _ ((sweep engine queue hint).run.run before).2 at last
  change ((sweep engine queue hint).run.run before).1 = _ at answer
  rw [ran] at last answer
  rcases body : (engine.sweep (sweepTarget before.locks.openSession.1) queue.name hint).run.run taken
    with ⟨result, swept⟩
  rw [body] at last answer
  obtain ⟨sweeps, counted⟩ := engine_sweep_run engine _ hint body
  refine ⟨((SameButLocks.sweeps same _).trans sweeps).trans (SameButLocks.sweeps last _), fun found given => ?_⟩
  rw [SameButLocks.rows last, ← SameButLocks.rows same]
  cases result with
  | error overflow => cases answer.symm.trans given
  | ok inner =>
    cases answer.symm.trans given
    exact counted found rfl

theorem sweepIf_run (engine : SweepEngine) (drawn : Bool) (session hint : Nat) :
    Sweeps queue.table before ((engine.sweepIf drawn (sweepTarget session) queue hint).run.run before).2 := by
  unfold SweepEngine.sweepIf
  cases drawn with
  | false => exact .refl _ _
  | true =>
    rw [if_pos rfl, run_bind]
    rcases swept : (engine.sweep (sweepTarget session) queue hint).run.run before with ⟨result, last⟩
    have sweeps := (engine_sweep_run engine session hint swept).1
    rcases result with overflow | failure | outcome
    · exact sweeps
    · exact sweeps
    · exact sweeps

theorem inline_sweep_run (engine : SweepEngine) (drawn : Bool) (hint : Nat) (before : Database) :
    Sweeps queue.table before
      ((inSession fun session => engine.sweepIf drawn (sweepTarget session) queue hint).run.run before).2 := by
  obtain ⟨taken, same, last, _⟩ :=
    inSession_run (fun session => engine.sweepIf drawn (sweepTarget session) queue hint) before
  exact ((SameButLocks.sweeps same _).trans (sweepIf_run engine drawn _ hint)).trans (SameButLocks.sweeps last _)

/-! A sweep stops only where the clock cannot be read. -/

/-- The action stops only where the clock cannot be read. -/
def StopsAtClock {α : Type} (action : Run α) : Prop :=
  ∀ before overflow, (action.run.run before).1 = .error overflow → before.now = .error overflow

theorem StopsAtClock.pure {α : Type} (result : α) : StopsAtClock (Pure.pure result) := fun _ _ => nofun

theorem StopsAtClock.bind {α β : Type} {action : Run α} {next : α → Run β} (first : StopsAtClock action)
    (untimed : ∀ before, (action.run.run before).2.now = before.now) (later : ∀ result, StopsAtClock (next result)) :
    StopsAtClock (action >>= next) := by
  intro before overflow stopped
  have same := untimed before
  rw [run_bind] at stopped
  rcases ran : action.run.run before with ⟨failure | result, middle⟩
  · rw [ran] at stopped
    cases stopped
    exact first before overflow (by rw [ran])
  · rw [ran] at stopped same
    exact same.symm.trans (later result middle overflow stopped)

theorem StopsAtClock.wraps {α β : Type} {outer : Run β} {give : α → β} {inner : Run α} (stops : StopsAtClock inner)
    (wraps : Wraps outer give inner before) {overflow : Overflow}
    (stopped : (outer.run.run before).1 = .error overflow) : before.now = .error overflow := by
  obtain ⟨taken, same, _, answer⟩ := wraps
  rw [stopped] at answer
  rw [← (SameButLocks.keeps same "").now]
  apply stops taken overflow
  cases inside : (inner.run.run taken).1 with
  | ok result =>
    rw [inside] at answer
    cases answer
  | error failure =>
    rw [inside] at answer
    cases answer
    rfl

theorem deleteDead_stopsAtClock (queue : QueueName) (limit : Nat) : StopsAtClock (deleteDead queue limit) := by
  refine .bind (fun before overflow stopped => ?_) (fun before => (now_moves "" before).now) fun instant => ?_
  · rw [now_run] at stopped
    cases clock : before.now with
    | error failure =>
      rw [clock] at stopped
      cases stopped
      rfl
    | ok instant =>
      rw [clock] at stopped
      cases stopped
  · intro before overflow stopped
    rw [run_bind, run_get] at stopped
    dsimp only at stopped
    cases found : before.table? queue with
    | none =>
      rw [found] at stopped
      cases stopped
    | some table =>
      rw [found] at stopped
      cases stopped

theorem batches_stopsAtClock (session : Nat) (queue : QueueName) (limit more : Nat) :
    StopsAtClock (SweepEngine.batches (sweepTarget session) queue limit more) := by
  have stops : StopsAtClock ((sweepTarget session).deleteDead queue limit) := deleteDead_stopsAtClock queue limit
  have untimed (before : Database) : (((sweepTarget session).deleteDead queue limit).run.run before).2.now =
      before.now := (deleteDead_run limit rfl).1.now
  induction more with
  | zero =>
    refine stops.bind untimed fun result => ?_
    cases result <;> exact .pure _
  | succ more ih =>
    refine stops.bind untimed fun result => ?_
    cases result with
    | error failure => exact .pure _
    | ok batch =>
      dsimp only
      split
      · exact .pure _
      · refine ih.bind (fun before => (batches_run session limit more rfl).1.now) fun result => ?_
        cases result <;> exact .pure _

theorem sweep_stopsAtClock (engine : SweepEngine) (session : Nat) (queue : QueueName) (hint : Nat) :
    StopsAtClock (engine.sweep (sweepTarget session) queue hint) := by
  intro before overflow stopped
  rcases engine_sweep_wraps engine session queue hint before with missed | wraps
  · exact StopsAtClock.wraps (.pure ()) missed stopped
  · exact (batches_stopsAtClock session queue _ _).wraps wraps stopped

theorem inline_sweep_stopsAtClock (engine : SweepEngine) (drawn : Bool) (queue : QueueName) (hint : Nat) :
    StopsAtClock (inSession fun session => engine.sweepIf drawn (sweepTarget session) queue hint) := by
  intro before overflow stopped
  refine StopsAtClock.wraps ?_ (inSession_run _ before) stopped
  unfold SweepEngine.sweepIf
  cases drawn with
  | false => exact .pure _
  | true =>
    rw [if_pos rfl]
    refine (sweep_stopsAtClock engine _ queue hint).bind (fun before => (engine_sweep_run engine _ hint rfl).1.now)
      fun result => ?_
    cases result <;> exact .pure _

/-! Receives. -/

/-- How the chosen rows of a table become leased messages. -/
structure Leases (rows : List StoredMessage) (now expiry : Instant) (shards : Option (List Int))
    (chosen : List StoredMessage) (change : StoredMessage → StoredMessage) (messages : List LeasedMessage) : Prop where
  distinct : (chosen.map StoredMessage.id).Nodup
  present : ∀ row ∈ chosen, row ∈ rows
  candidate : ∀ row ∈ chosen, row.isCandidate now shards
  change : ∀ row ∈ rows, change row = if row.id ∈ chosen.map StoredMessage.id then row.lease now expiry else row
  messages : messages = chosen.map fun row => (row.lease now expiry).leased now

theorem lease_of_find {rows chosen : List StoredMessage} (ascending : Table.Ascending rows) (now expiry : Instant)
    (present : ∀ row ∈ chosen, row ∈ rows) {row : StoredMessage} (here : row ∈ rows) :
    ((chosen.map fun other => other.lease now expiry).find? fun other => row.id = other.id).getD row =
      if row.id ∈ chosen.map StoredMessage.id then row.lease now expiry else row := by
  rw [List.find?_map]
  cases found : chosen.find? ((fun other : StoredMessage => decide (row.id = other.id)) ∘ fun other =>
      other.lease now expiry) with
  | none =>
    rw [if_neg]
    · rfl
    · intro member
      obtain ⟨other, there, same⟩ := List.mem_map.mp member
      have apart := List.find?_eq_none.mp found other there
      exact apart (decide_eq_true same.symm)
  | some other =>
    have there := List.mem_of_find?_eq_some found
    have hit := List.find?_some found
    have same : row.id = other.id := of_decide_eq_true hit
    obtain rfl := Table.eq_of_id ascending here (present other there) same
    rw [if_pos (List.mem_map_of_mem there)]
    rfl

theorem leaseRows_run {table : Table} (found : before.table? queue = some table)
    (ascending : Table.Ascending table.rows) {now : Instant} {visibility : Duration} {chosen : List StoredMessage}
    {shards : Option (List Int)} (distinct : (chosen.map StoredMessage.id).Nodup)
    (present : ∀ row ∈ chosen, row ∈ table.rows) (candidate : ∀ row ∈ chosen, row.isCandidate now shards)
    {outcome : Except Overflow (List LeasedMessage)}
    (ran : (leaseRows queue table now visibility chosen).run.run before = (outcome, after)) :
    ∃ change, Rewrites queue.table change before after ∧ ∀ messages, outcome = .ok messages →
      Leases (before.rows queue.table) now (now + (visibility : Int)) shards chosen change messages := by
  have rows := rows_of_table found
  unfold leaseRows at ran
  cases chosen with
  | nil =>
    cases ran
    refine ⟨id, .refl _ _, fun messages same => ?_⟩
    cases same
    exact ⟨distinct, nofun, nofun, fun _ _ => rfl, rfl⟩
  | cons first others =>
    cases due : now.add visibility with
    | error overflow =>
      rw [due] at ran
      cases ran
      refine ⟨fun row => if row.id = first.id then { first with processingAt := some now } else row,
        ⟨setTable_keeps found rfl, ?_, fun row member => ?_⟩, nofun⟩
      · rw [rows_setTable, rows]
        rfl
      · rw [rows] at member
        split
        · rename_i same
          obtain rfl := Table.eq_of_id ascending member (present first List.mem_cons_self) same
          rfl
        · rfl
    | ok expiry =>
      rw [due] at ran
      cases ran
      obtain rfl := Instant.add_ok due
      generalize first :: others = chosen at distinct present candidate ⊢
      have ids : ((chosen.map fun row => row.lease now (now + (visibility : Int))).map StoredMessage.id).Nodup := by
        rw [List.map_map]
        exact distinct
      refine ⟨fun row => if row.id ∈ chosen.map StoredMessage.id then row.lease now (now + (visibility : Int)) else row,
        ⟨setTable_keeps found (Table.sequence_foldl_replace table _), ?_, fun row _ => ?_⟩, fun messages same => ?_⟩
      · rw [rows_setTable, Table.rows_foldl_replace table ids, rows]
        exact List.map_congr_left fun row member => lease_of_find ascending now _ present member
      · split
        · exact row.lease_receipt now _
        · rfl
      · cases same
        refine ⟨distinct, rows ▸ present, candidate, fun _ _ => rfl, ?_⟩
        rw [List.map_map]
        rfl

theorem leaseRows_moves (table : Table) (now : Instant) (visibility : Duration) (chosen : List StoredMessage)
    (before : Database) :
    Moves queue.table before ((leaseRows queue table now visibility chosen).run.run before).2 := by
  unfold leaseRows
  cases chosen with
  | nil => exact .refl _ _
  | cons first rest =>
    cases now.add visibility with
    | error overflow => exact before.setTable_moves queue _
    | ok expiry => exact before.setTable_moves queue _

/-- How a receive goes on when dead rows have been swept. -/
inductive ReceiveEnds (queue : Queue) (options : ReceiveOptions) (swept : Database) :
    Except Overflow (Except Error (List LeasedMessage)) → Database → Prop
  | refused (failure : Error) : ReceiveEnds queue options swept (.ok (.error failure)) swept
  | stopped {overflow : Overflow} (clock : swept.now = .error overflow) :
      ReceiveEnds queue options swept (.error overflow) swept
  | noTable {now : Instant} (clock : swept.now = .ok now) (absent : swept.table? queue.name = none) :
      ReceiveEnds queue options swept (.ok (.ok [])) swept
  | leased {now : Instant} {table : Table} {chosen : List StoredMessage} {after : Database}
      {outcome : Except Overflow (List LeasedMessage)} (clock : swept.now = .ok now)
      (found : swept.table? queue.name = some table) (picked : table.choose now options = .ok chosen)
      (ran : (leaseRows queue.name table now (queue.visibilityOf options) chosen).run.run swept = (outcome, after)) :
      ReceiveEnds queue options swept (outcome.map .ok) after

/-- A receive may sweep, and then it goes in one of these ways. -/
theorem receive_cases (engine : SweepEngine) (drawn : Bool) (queue : Queue) (options : ReceiveOptions)
    {outcome : Except Overflow (Except Error (List LeasedMessage))}
    (ran : (receive engine drawn queue options).run.run before = (outcome, after)) :
    ∃ swept, Sweeps queue.table before swept ∧ ReceiveEnds queue options swept outcome after := by
  unfold receive at ran
  split at ran
  · cases ran
    exact ⟨before, .refl _ _, .refused _⟩
  · cases span : checkSpan (queue.visibilityOf options) with
    | error failure =>
      rw [span] at ran
      cases ran
      exact ⟨before, .refl _ _, .refused _⟩
    | ok visibility =>
      obtain rfl := Stage.checkSpan_ok span
      rw [span] at ran
      dsimp only at ran
      have sweeps : Sweeps queue.table before _ := inline_sweep_run engine drawn options.limit before
      rw [run_bind] at ran
      rcases done : (inSession fun session =>
        engine.sweepIf drawn (sweepTarget session) queue.name options.limit).run.run before with ⟨result, swept⟩
      rw [done] at ran sweeps
      refine ⟨swept, sweeps, ?_⟩
      cases result with
      | error overflow =>
        have clock := inline_sweep_stopsAtClock engine drawn queue.name options.limit before overflow (by rw [done])
        cases ran
        exact .stopped (sweeps.now.trans clock)
      | ok removed =>
        dsimp only at ran
        rw [run_bind, now_run] at ran
        cases clock : swept.now with
        | error overflow =>
          rw [clock] at ran
          cases ran
          exact .stopped clock
        | ok now =>
          rw [clock] at ran
          dsimp only at ran
          rw [run_bind, run_get] at ran
          dsimp only at ran
          cases found : swept.table? queue.name with
          | none =>
            rw [found] at ran
            cases ran
            exact .noTable clock found
          | some table =>
            rw [found] at ran
            dsimp only at ran
            cases picked : table.choose now options with
            | error failure =>
              rw [picked] at ran
              cases ran
              exact .refused failure
            | ok chosen =>
              rw [picked] at ran
              dsimp only at ran
              rw [run_bind] at ran
              rcases leased : (leaseRows queue.name table now (queue.visibilityOf options) chosen).run.run swept with
                ⟨result, last⟩
              have ends := ReceiveEnds.leased clock found picked leased
              rw [leased] at ran
              cases result <;> (cases ran; exact ends)

theorem receive_moves (engine : SweepEngine) (drawn : Bool) (queue : Queue) (options : ReceiveOptions)
    (before : Database) : Moves queue.table before ((receive engine drawn queue options).run.run before).2 := by
  rcases ran : (receive engine drawn queue options).run.run before with ⟨outcome, after⟩
  obtain ⟨swept, sweeps, ends⟩ := receive_cases engine drawn queue options ran
  refine sweeps.toMoves.trans ?_
  cases ends with
  | refused | stopped | noTable => exact .refl _ _
  | @leased now table chosen _ _ clock found picked leased =>
    have moves : Moves queue.table swept _ := leaseRows_moves table now (queue.visibilityOf options) chosen swept
    rw [leased] at moves
    exact moves

/-- A receive may sweep; after that it leases rows, or changes nothing if it fails. -/
theorem receive_run (engine : SweepEngine) (drawn : Bool) (queue : Queue) (options : ReceiveOptions)
    (ascending : Table.Ascending (before.rows queue.table))
    {outcome : Except Overflow (Except Error (List LeasedMessage))}
    (ran : (receive engine drawn queue options).run.run before = (outcome, after)) :
    ∃ middle change, Sweeps queue.table before middle ∧ Rewrites queue.table change middle after ∧
      (∀ failure, outcome = .ok (.error failure) → change = id) ∧
      ∀ messages, outcome = .ok (.ok messages) → ∃ now chosen, before.now = .ok now ∧
        Leases (middle.rows queue.table) now (now + (queue.visibilityOf options : Int)) options.shards chosen change
          messages := by
  obtain ⟨middle, sweeps, ends⟩ := receive_cases engine drawn queue options ran
  cases ends with
  | refused failure => exact ⟨after, id, sweeps, .refl _ _, fun _ _ => rfl, nofun⟩
  | stopped clock => exact ⟨after, id, sweeps, .refl _ _, nofun, nofun⟩
  | @noTable now clock absent =>
    refine ⟨after, id, sweeps, .refl _ _, nofun, fun messages same => ?_⟩
    cases same
    exact ⟨now, [], sweeps.now.symm.trans clock, .nil, nofun, nofun, fun _ _ => rfl, rfl⟩
  | @leased now table chosen _ result clock found picked ran =>
    have order : Table.Ascending table.rows :=
      rows_of_table found ▸ List.Pairwise.sublist sweeps.sublist ascending
    obtain ⟨distinct, eligible⟩ := Table.choose_spec picked order
    obtain ⟨change, rewrites, given⟩ := leaseRows_run found order distinct (fun row member =>
      (eligible row member).1) (fun row member => (eligible row member).2) ran
    refine ⟨middle, change, sweeps, rewrites, ?_, ?_⟩
    · intro failure same
      cases result <;> cases same
    · intro messages same
      cases result with
      | error overflow => cases same
      | ok leases =>
        cases same
        exact ⟨now, chosen, sweeps.now.symm.trans clock, given messages rfl⟩

/-! Deletions and mutations. -/

theorem delete_run (queue : Queue) (ids : List MessageId) (before : Database) : ∃ removed,
    ((delete queue ids).run.run before).1 = .ok (.ok removed) ∧
      Keeps queue.table before ((delete queue ids).run.run before).2 ∧
      ((delete queue ids).run.run before).2.rows queue.table =
        ((before.rows queue.table).filter fun row => row.address ∉ ids) ∧
      removed = ((before.rows queue.table).filter fun row => row.address ∈ ids).length := by
  unfold delete
  rw [run_bind, run_get]
  dsimp only
  cases found : before.table? queue.name with
  | none =>
    have rows : before.rows queue.table = [] := rows_of_none found
    refine ⟨0, rfl, .refl _ _, ?_, ?_⟩
    · exact rows.trans (by rw [rows]; rfl)
    · rw [rows]
      rfl
  | some table =>
    have rows : before.rows queue.table = table.rows := rows_of_table found
    refine ⟨_, rfl, setTable_keeps found rfl, ?_, ?_⟩
    · rw [rows]
      exact rows_setTable before queue.name _
    · rw [rows]
      have parts := List.length_eq_countP_add_countP (fun row : StoredMessage => decide (row.address ∈ ids))
        (l := table.rows)
      rw [List.countP_eq_length_filter, List.countP_eq_length_filter] at parts
      simp only [decide_eq_true_eq] at parts
      exact Nat.sub_eq_of_eq_add parts

/-- A mutation checks its arguments, reads the clock and looks for the table, and then changes one message after
another. -/
theorem mutate_eq (queue : Queue) (mutations : List Mutation) (ids : List MessageId) (before : Database) :
    (mutate queue mutations ids).run.run before =
      match Mutation.validateAll mutations >>= fun _ => mutations.forM checkMutation, before.now,
        before.table? queue.name with
      | .error failure, _, _ => (.ok (.error failure), before)
      | .ok _, .error overflow, _ => (.error overflow, before)
      | .ok _, .ok _, none => (.ok (.ok (ids.map .notFound)), before)
      | .ok _, .ok now, some table => ((table.mutateAll now mutations ids).1.map .ok,
          before.setTable queue.name (table.mutateAll now mutations ids).2) := by
  unfold mutate
  cases Mutation.validateAll mutations >>= fun _ => mutations.forM checkMutation with
  | error failure => rfl
  | ok _ =>
    dsimp only
    rw [run_bind, now_run]
    cases before.now with
    | error overflow => rfl
    | ok now =>
      dsimp only
      rw [run_bind, run_get]
      dsimp only
      cases before.table? queue.name with
      | none => rfl
      | some table =>
        dsimp only
        rcases table.mutateAll now mutations ids with ⟨result, last⟩
        dsimp only
        rw [run_bind, run_set]
        cases result <;> rfl

/-- How a mutation goes. -/
inductive MutateEnds (queue : Queue) (mutations : List Mutation) (ids : List MessageId) (before : Database) :
    Except Overflow (Except Error (List MutationOutcome)) → Database → Prop
  | refused (failure : Error) : MutateEnds queue mutations ids before (.ok (.error failure)) before
  | stopped {overflow : Overflow} (clock : before.now = .error overflow) :
      MutateEnds queue mutations ids before (.error overflow) before
  | noTable (absent : before.table? queue.name = none) :
      MutateEnds queue mutations ids before (.ok (.ok (ids.map .notFound))) before
  | changed {now : Instant} {table : Table} (clock : before.now = .ok now)
      (found : before.table? queue.name = some table) :
      MutateEnds queue mutations ids before ((table.mutateAll now mutations ids).1.map .ok)
        (before.setTable queue.name (table.mutateAll now mutations ids).2)

theorem mutate_cases (queue : Queue) (mutations : List Mutation) (ids : List MessageId)
    {outcome : Except Overflow (Except Error (List MutationOutcome))}
    (ran : (mutate queue mutations ids).run.run before = (outcome, after)) :
    MutateEnds queue mutations ids before outcome after := by
  rw [mutate_eq] at ran
  split at ran
  · cases ran
    exact .refused _
  · cases ran
    exact .stopped ‹_›
  · cases ran
    exact .noTable ‹_›
  · cases ran
    exact .changed ‹_› ‹_›

theorem mutate_moves (queue : Queue) (mutations : List Mutation) (ids : List MessageId) (before : Database) :
    Moves queue.table before ((mutate queue mutations ids).run.run before).2 := by
  rcases ran : (mutate queue mutations ids).run.run before with ⟨outcome, after⟩
  cases mutate_cases queue mutations ids ran with
  | refused | stopped | noTable => exact .refl _ _
  | changed => exact before.setTable_moves queue.name _

/-- A mutation changes no other rows than those that it reports, unless it stops half-way. -/
theorem mutate_run (queue : Queue) (mutations : List Mutation) (ids : List MessageId)
    (ascending : Table.Ascending (before.rows queue.table))
    {outcome : Except Overflow (Except Error (List MutationOutcome))}
    (ran : (mutate queue mutations ids).run.run before = (outcome, after)) :
    ∃ change, Rewrites queue.table change before after ∧
      (∀ failure, outcome = .ok (.error failure) → change = id) ∧
      ∀ outcomes, outcome = .ok (.ok outcomes) → ∀ row ∈ before.rows queue.table,
        ¬ Table.Touched outcomes row.address → change row = row := by
  cases mutate_cases queue mutations ids ran with
  | refused failure => exact ⟨id, .refl _ _, fun _ _ => rfl, nofun⟩
  | stopped clock => exact ⟨id, .refl _ _, nofun, nofun⟩
  | noTable absent => exact ⟨id, .refl _ _, nofun, fun _ _ _ _ _ => rfl⟩
  | @changed now table clock found =>
    have rows : before.rows queue.table = table.rows := rows_of_table found
    rw [rows] at ascending
    have mutates := Table.mutateAll_mutates ascending now mutations ids
    rcases changed : table.mutateAll now mutations ids with ⟨result, last⟩
    rw [changed] at mutates
    obtain ⟨change, moved, kept⟩ := mutates.rows
    refine ⟨change, ⟨setTable_keeps found mutates.sequence, ?_, ?_⟩, ?_, ?_⟩
    · rw [rows, ← moved]
      exact rows_setTable before queue.name last
    · rw [rows]
      exact fun row member => (kept row member).1
    · intro failure same
      cases result <;> cases same
    · intro outcomes same row member untouched
      refine (kept row (rows ▸ member)).2 fun touched => untouched (touched outcomes ?_)
      cases result with
      | error overflow => cases same
      | ok reported =>
        cases same
        rfl

end Run

end LeaseQueue
