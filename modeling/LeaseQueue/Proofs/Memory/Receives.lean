import LeaseQueue.Proofs.Memory.History

/-!
Receives apart from their sweeps. What a sweep removes could not be leased, so a receive picks the same rows however
much of the dead is swept before it, and it never touches a dead row.
-/
namespace LeaseQueue

namespace StoredMessage

variable {row : StoredMessage} {now : Instant}

theorem isSwept_iff : row.isSwept now = true ↔ row.state now = .dead := by
  unfold isSwept state MessageState.classify
  by_cases due : row.scheduledAt ≤ now <;> by_cases spent : row.remaining ≤ 0 <;>
    cases row.processingAt.isSome <;> simp [due, spent]

theorem alive_of_candidate {shards : Option (List Int)} (candidate : row.isCandidate now shards) :
    row.state now ≠ .dead := by
  intro dead
  unfold isCandidate at candidate
  rw [dead] at candidate
  cases candidate

end StoredMessage

namespace Table

theorem filter_dropSwept (now : Instant) (shards : Option (List Int)) (limit : Nat) (rows : List StoredMessage) :
    ((dropSwept now limit rows).filter fun row => row.isCandidate now shards) =
      rows.filter fun row => row.isCandidate now shards := by
  induction rows generalizing limit with
  | nil => cases limit <;> rfl
  | cons row rest ih =>
    cases limit with
    | zero => rw [dropSwept_zero]
    | succ limit =>
      unfold dropSwept
      split
      · rename_i swept
        refine (ih limit).trans (List.filter_cons_of_neg ?_).symm
        exact fun candidate => StoredMessage.alive_of_candidate candidate (StoredMessage.isSwept_iff.mp swept)
      · rw [List.filter_cons, List.filter_cons, ih]

/-- A receive chooses the same rows before a sweep and after it. -/
theorem choose_dropSwept (first second : IdSequence) (now : Instant) (limit : Nat) (rows : List StoredMessage)
    (options : ReceiveOptions) :
    Table.choose ⟨first, dropSwept now limit rows⟩ now options = Table.choose ⟨second, rows⟩ now options := by
  unfold choose
  dsimp only
  rw [filter_dropSwept]

end Table

namespace Database

/-- Nothing but the locks and the rows of one table may change, and these where they stand. -/
structure Changes (name : String) (change : StoredMessage → StoredMessage) (before after : Database) : Prop
    extends Moves name before after where
  table : after.tables[name]? =
    (before.tables[name]?).map fun table => { table with rows := table.rows.map change }

variable {name : String} {before middle after : Database} {change later : StoredMessage → StoredMessage}

theorem Changes.refl (name : String) (database : Database) : Changes name id database database := by
  refine ⟨.refl name database, ?_⟩
  cases database.tables[name]? with
  | none => rfl
  | some table => exact congrArg (fun rows => some { table with rows := rows }) (List.map_id _).symm

theorem Changes.trans (first : Changes name change before middle) (second : Changes name later middle after) :
    Changes name (later ∘ change) before after := by
  refine ⟨first.toMoves.trans second.toMoves, ?_⟩
  rw [second.table, first.table, Option.map_map]
  refine congrArg (fun step => Option.map step _) (funext fun table => ?_)
  exact congrArg (fun rows => { table with rows := rows }) List.map_map

theorem Changes.rows (changes : Changes name change before after) :
    after.rows name = (before.rows name).map change := by
  unfold Database.rows
  rw [changes.table]
  cases before.tables[name]? <;> rfl

/-- Databases that come of one by the same change of one table have the same tables. -/
theorem Changes.tables_eq {one other : Database} {first second : StoredMessage → StoredMessage}
    (here : Changes name first before one) (there : Changes name second before other)
    (same : ∀ row ∈ before.rows name, first row = second row) : one.tables = other.tables := by
  refine Std.ExtTreeMap.ext_getElem? fun key => ?_
  by_cases own : key = name
  · subst own
    rw [here.table, there.table]
    unfold Database.rows at same
    cases found : before.tables[key]? with
    | none => rfl
    | some table =>
      rw [found] at same
      exact congrArg (fun rows => some { table with rows := rows }) (List.map_congr_left same)
  · rw [here.others key own, there.others key own]

theorem SameButLocks.changes (same : SameButLocks before after) (name : String) : Changes name id before after := by
  obtain ⟨_, _, rfl⟩ := same
  exact ⟨⟨rfl, rfl, rfl, rfl, fun _ _ => rfl⟩, (Changes.refl name before).table⟩

theorem setTable_changes {queue : QueueName} {table changed : Table} (found : before.table? queue = some table)
    (sequence : changed.sequence = table.sequence) (rows : changed.rows = table.rows.map change) :
    Changes queue.table change before (before.setTable queue changed) := by
  refine ⟨before.setTable_moves queue changed, ?_⟩
  rw [tables_setTable, if_pos rfl, show before.tables[queue.table]? = some table from found, Option.map_some,
    ← sequence, ← rows]

end Database

namespace Run

open Database

/-- What a receive answers and does to the rows once it has picked some of them. If the leases would end outside the
calendar, the first row is marked and that is all. -/
def leasing (now : Instant) (visibility : Duration) : Except Error (List StoredMessage) →
    Except Overflow (Except Error (List LeasedMessage)) × (StoredMessage → StoredMessage)
  | .error failure => (.ok (.error failure), id)
  | .ok [] => (.ok (.ok []), id)
  | .ok (first :: others) =>
    match now.add visibility with
    | .error overflow =>
      (.error overflow, fun row => if row.id = first.id then { row with processingAt := some now } else row)
    | .ok expiry =>
      (.ok (.ok ((first :: others).map fun row => (row.lease now expiry).leased now)),
        fun row => if row.id ∈ (first :: others).map StoredMessage.id then row.lease now expiry else row)

/-- The rows that a receive leases of a queue, none where there is no table. -/
def picked (queue : Queue) (options : ReceiveOptions) (now : Instant) (database : Database) :
    Except Error (List StoredMessage) :=
  match database.table? queue.name with
  | none => .ok []
  | some table => table.choose now options

/-- What a receive answers and does to the rows, its sweep aside. -/
def received (queue : Queue) (options : ReceiveOptions) (database : Database) :
    Except Overflow (Except Error (List LeasedMessage)) × (StoredMessage → StoredMessage) :=
  if options.limit = 0 then (.ok (refuse .receiveLimit), id)
  else
    match checkSpan (queue.visibilityOf options), database.now with
    | .error failure, _ => (.ok (.error failure), id)
    | .ok _, .error overflow => (.error overflow, id)
    | .ok visibility, .ok now => leasing now visibility (picked queue options now database)

/-- A receive gives nothing and leaves the rows alone, or it leases what it has picked. -/
theorem received_cases (queue : Queue) (options : ReceiveOptions) (before : Database) :
    (∃ answer, received queue options before = (answer, id) ∧ ∀ messages, answer ≠ .ok (.ok messages)) ∨
      ∃ now visibility, before.now = .ok now ∧
        received queue options before = leasing now visibility (picked queue options now before) := by
  unfold received
  split
  · exact .inl ⟨_, rfl, nofun⟩
  · cases checkSpan (queue.visibilityOf options) with
    | error failure => exact .inl ⟨_, rfl, nofun⟩
    | ok visibility =>
      cases before.now with
      | error overflow => exact .inl ⟨_, rfl, nofun⟩
      | ok now => exact .inr ⟨now, visibility, rfl, rfl⟩

variable {queue : Queue} {options : ReceiveOptions} {before swept : Database}

theorem picked_eq (sequence : IdSequence) (now : Instant) (database : Database) :
    picked queue options now database = Table.choose ⟨sequence, database.rows queue.table⟩ now options := by
  unfold picked
  cases found : database.table? queue.name with
  | none =>
    rw [show database.rows queue.table = [] from rows_of_none found]
    unfold Table.choose sortBy
    rw [List.filter_nil]
    unfold Table.passing
    exact congrArg Except.ok List.take_nil.symm
  | some table =>
    rw [show database.rows queue.table = table.rows from rows_of_table found]
    rfl

/-- What is picked does not depend on what was swept. -/
theorem picked_sweeps (sweeps : Sweeps queue.table before swept) {now : Instant} (clock : before.now = .ok now) :
    picked queue options now swept = picked queue options now before := by
  obtain ⟨limit, kept⟩ := sweeps.rows
  have sequence : IdSequence := ⟨.default, 0, 0⟩
  rw [picked_eq sequence, picked_eq sequence, kept]
  unfold dropSwept
  rw [clock]
  exact Table.choose_dropSwept sequence sequence now limit _ options

/-- Different rows are picked from the table, all of which a consumer may lease. -/
theorem picked_spec {now : Instant} (ascending : Table.Ascending (before.rows queue.table))
    {chosen : List StoredMessage} (done : picked queue options now before = .ok chosen) :
    (chosen.map StoredMessage.id).Nodup ∧
      ∀ row ∈ chosen, row ∈ before.rows queue.table ∧ row.isCandidate now options.shards := by
  have sequence : IdSequence := ⟨.default, 0, 0⟩
  rw [picked_eq sequence] at done
  exact Table.choose_spec done ascending

/-- A receive changes no row that it has not picked. -/
theorem leasing_unpicked (now : Instant) (visibility : Duration) {chosen : List StoredMessage} {row : StoredMessage}
    (apart : ∀ other ∈ chosen, row.id ≠ other.id) : (leasing now visibility (.ok chosen)).2 row = row := by
  cases chosen with
  | nil => rfl
  | cons first others =>
    unfold leasing
    cases now.add visibility with
    | error overflow => exact if_neg (apart first List.mem_cons_self)
    | ok expiry =>
      refine if_neg fun there => ?_
      obtain ⟨other, listed, same⟩ := List.mem_map.mp there
      exact apart other listed same.symm

/-- No receive changes a dead row. -/
theorem leasing_dead {now : Instant} (visibility : Duration) (ascending : Table.Ascending (before.rows queue.table))
    {row : StoredMessage} (member : row ∈ before.rows queue.table) (dead : row.state now = .dead) :
    (leasing now visibility (picked queue options now before)).2 row = row := by
  cases done : picked queue options now before with
  | error failure => rfl
  | ok chosen =>
    refine leasing_unpicked now visibility fun other there same => ?_
    obtain ⟨present, candidate⟩ := (picked_spec ascending done).2 other there
    obtain rfl := Table.eq_of_id ascending member present same
    exact StoredMessage.alive_of_candidate candidate dead

theorem leasing_receipt (now : Instant) (visibility : Duration) (chosen : Except Error (List StoredMessage))
    (row : StoredMessage) : ((leasing now visibility chosen).2 row).receipt = row.receipt := by
  unfold leasing
  split
  · rfl
  · rfl
  · split
    · dsimp only
      split <;> rfl
    · dsimp only
      split <;> rfl

/-- What is given out are picked rows. -/
theorem leasing_message {now : Instant} {visibility : Duration} {chosen : List StoredMessage}
    {messages : List LeasedMessage} (done : (leasing now visibility (.ok chosen)).1 = .ok (.ok messages))
    {message : LeasedMessage} (given : message ∈ messages) : ∃ row ∈ chosen, message.id = row.address := by
  unfold leasing at done
  cases chosen with
  | nil =>
    cases done
    cases given
  | cons first others =>
    cases due : now.add visibility with
    | error overflow =>
      rw [due] at done
      cases done
    | ok expiry =>
      rw [due] at done
      cases done
      obtain ⟨row, member, rfl⟩ := List.mem_map.mp given
      exact ⟨row, member, rfl⟩

theorem leaseRows_leasing {table : Table} (found : before.table? queue.name = some table)
    (ascending : Table.Ascending table.rows) {now : Instant} (visibility : Duration) {chosen : List StoredMessage}
    (distinct : (chosen.map StoredMessage.id).Nodup) (present : ∀ row ∈ chosen, row ∈ table.rows) :
    ∃ outcome after, (leaseRows queue.name table now visibility chosen).run.run before = (outcome, after) ∧
      outcome.map .ok = (leasing now visibility (.ok chosen)).1 ∧
      Changes queue.table (leasing now visibility (.ok chosen)).2 before after := by
  unfold leaseRows leasing
  cases chosen with
  | nil => exact ⟨_, before, rfl, rfl, .refl _ _⟩
  | cons first others =>
    cases now.add visibility with
    | error overflow =>
      refine ⟨_, _, rfl, rfl, setTable_changes found rfl (List.map_congr_left fun row member => ?_)⟩
      by_cases same : row.id = first.id
      · rw [Table.eq_of_id ascending member (present first List.mem_cons_self) same]
      · exact (if_neg same).trans (if_neg same).symm
    | ok expiry =>
      have ids : (((first :: others).map fun row => row.lease now expiry).map StoredMessage.id).Nodup := by
        rw [List.map_map]
        exact distinct
      refine ⟨_, _, rfl, ?_, setTable_changes found (Table.sequence_foldl_replace table _) ?_⟩
      · rw [List.map_map]
        rfl
      · rw [Table.rows_foldl_replace table ids]
        exact List.map_congr_left fun row member => lease_of_find ascending now expiry present member

/-- A receive behind its sweep. -/
def leaseNow (queue : Queue) (options : ReceiveOptions) (visibility : Duration) :
    Run (Except Error (List LeasedMessage)) := do
  let instant ← now
  match (← get).table? queue.name with
  | none => return .ok []
  | some table =>
    match table.choose instant options with
    | .error failure => return .error failure
    | .ok chosen => return .ok (← leaseRows queue.name table instant visibility chosen)

theorem leaseNow_stops {overflow : Overflow} (visibility : Duration) (clock : before.now = .error overflow) :
    (leaseNow queue options visibility).run.run before = (.error overflow, before) := by
  unfold leaseNow
  rw [run_bind, now_run, clock]

theorem leaseNow_leasing {now : Instant} (visibility : Duration) (clock : before.now = .ok now)
    (ascending : Table.Ascending (before.rows queue.table)) :
    ∃ after, (leaseNow queue options visibility).run.run before =
        ((leasing now visibility (picked queue options now before)).1, after) ∧
      Changes queue.table (leasing now visibility (picked queue options now before)).2 before after := by
  have spec := @picked_spec queue options before now ascending
  unfold leaseNow
  rw [run_bind, now_run, clock]
  dsimp only
  rw [run_bind, run_get]
  unfold picked at spec ⊢
  dsimp only
  cases found : before.table? queue.name with
  | none => exact ⟨before, rfl, .refl _ _⟩
  | some table =>
    have rows : before.rows queue.table = table.rows := rows_of_table found
    rw [found] at spec
    dsimp only at spec ⊢
    cases done : table.choose now options with
    | error failure => exact ⟨before, rfl, .refl _ _⟩
    | ok chosen =>
      obtain ⟨distinct, members⟩ := spec done
      obtain ⟨outcome, after, ran, answer, changes⟩ := leaseRows_leasing found (rows ▸ ascending) visibility distinct
        fun row member => rows ▸ (members row member).1
      dsimp only
      rw [run_bind, ran, ← answer]
      refine ⟨after, ?_, changes⟩
      cases outcome <;> rfl

/-- However the sweep of a receive goes, it stops only where the clock cannot be read. -/
theorem inline_sweep_cases (engine : SweepEngine) (drawn : Bool) (queue : Queue) (hint : Nat) (before : Database) :
    ∃ outcome swept, (inSession fun session =>
        engine.sweepIf drawn (sweepTarget session) queue.name hint).run.run before = (outcome, swept) ∧
      Sweeps queue.table before swept ∧ ∀ overflow, outcome = .error overflow → before.now = .error overflow := by
  have sweeps : Sweeps queue.table before _ := inline_sweep_run engine drawn hint before
  have stops := inline_sweep_stopsAtClock engine drawn queue.name hint before
  exact ⟨_, _, rfl, sweeps, stops⟩

/-- A receive is refused and leaves everything alone, or it sweeps, if that was drawn, and then leases. -/
theorem receive_parts (engine : SweepEngine) (drawn : Bool) (queue : Queue) (options : ReceiveOptions)
    (before : Database) :
    (∃ failure, (receive engine drawn queue options).run.run before = (.ok (.error failure), before) ∧
        received queue options before = (.ok (.error failure), id)) ∨
      ∃ visibility, (receive engine drawn queue options).run.run before =
          ((inSession fun session => engine.sweepIf drawn (sweepTarget session) queue.name options.limit) >>=
            fun _ => leaseNow queue options visibility).run.run before ∧
        received queue options before =
          match before.now with
          | .error overflow => (.error overflow, id)
          | .ok now => leasing now visibility (picked queue options now before) := by
  unfold receive received
  split
  · exact .inl ⟨_, rfl, rfl⟩
  · cases checkSpan (queue.visibilityOf options) with
    | error failure => exact .inl ⟨failure, rfl, rfl⟩
    | ok visibility => exact .inr ⟨visibility, rfl, by cases before.now <;> rfl⟩

/-- A receive answers as if it had not swept, and does to the rows that its sweep has kept what it would have done to
all of them. -/
theorem receive_received (engine : SweepEngine) (drawn : Bool) (ascending : Table.Ascending (before.rows queue.table)) :
    ∃ after, (receive engine drawn queue options).run.run before = ((received queue options before).1, after) ∧
      Moves queue.table before after ∧ ∃ limit, after.rows queue.table =
        (before.dropSwept queue.table limit).map (received queue options before).2 := by
  rcases receive_parts engine drawn queue options before with ⟨failure, ran, same⟩ | ⟨visibility, ran, same⟩
  · rw [ran, same]
    refine ⟨before, rfl, .refl _ _, 0, ?_⟩
    rw [before.dropSwept_zero, List.map_id]
  · obtain ⟨outcome, swept, done, sweeps, stops⟩ := inline_sweep_cases engine drawn queue options.limit before
    obtain ⟨limit, kept⟩ := sweeps.rows
    rw [ran, same, run_bind, done]
    -- Where there is no time the receive fails alike, whether its sweep failed at that or did not run.
    cases clock : before.now with
    | error overflow =>
      refine ⟨swept, ?_, sweeps.toMoves, limit, kept.trans (List.map_id _).symm⟩
      cases outcome with
      | error failure =>
        cases clock.symm.trans (stops failure rfl)
        rfl
      | ok removed => exact leaseNow_stops visibility (sweeps.now.trans clock)
    | ok now =>
      cases outcome with
      | error failure => cases clock.symm.trans (stops failure rfl)
      | ok removed =>
        have order : Table.Ascending (swept.rows queue.table) := List.Pairwise.sublist sweeps.sublist ascending
        obtain ⟨after, ran, changes⟩ := leaseNow_leasing visibility (sweeps.now.trans clock) order
        rw [picked_sweeps sweeps clock] at ran changes
        exact ⟨after, ran, sweeps.toMoves.trans changes.toMoves, limit, kept ▸ changes.rows⟩

/-- A session in which nothing is swept comes and goes. -/
theorem no_sweep_run (engine : SweepEngine) (queue : QueueName) (hint : Nat) (before : Database) :
    ∃ locks, (inSession fun session => engine.sweepIf false (sweepTarget session) queue hint).run.run before =
      (.ok none, { before with locks := locks }) := ⟨_, rfl⟩

/-- A receive that does not sweep changes the rows where they stand. -/
theorem unswept_receive_received (engine : SweepEngine) (ascending : Table.Ascending (before.rows queue.table)) :
    ∃ after, (receive engine false queue options).run.run before = ((received queue options before).1, after) ∧
      Changes queue.table (received queue options before).2 before after := by
  rcases receive_parts engine false queue options before with ⟨failure, ran, same⟩ | ⟨visibility, ran, same⟩
  · rw [ran, same]
    exact ⟨before, rfl, .refl _ _⟩
  · obtain ⟨locks, done⟩ := no_sweep_run engine queue.name options.limit before
    let opened : Database := { before with locks := locks }
    have unlocked : SameButLocks before opened := ⟨locks, before.localLocks, rfl⟩
    rw [ran, same, run_bind, done]
    cases clock : before.now with
    | error overflow => exact ⟨opened, leaseNow_stops visibility clock, SameButLocks.changes unlocked _⟩
    | ok now =>
      obtain ⟨after, ran, changes⟩ := @leaseNow_leasing queue options opened now visibility clock ascending
      exact ⟨after, ran, (SameButLocks.changes unlocked _).trans changes⟩

end Run

/-! Two receives -/

namespace Database

/-- The message is dead by the clock of the database. -/
def Dead (database : Database) (row : StoredMessage) : Prop :=
  ∃ now, database.now = .ok now ∧ row.state now = .dead

/-- What became of one table in two ways. A message that was not dead fared the same in both, and what is to be found
after one of them only is a message that was dead. -/
structure SameButDead (name : String) (before one other : Database) : Prop where
  ordered : Table.Ascending (one.rows name) ∧ Table.Ascending (other.rows name)
  living : ∀ row ∈ before.rows name, ¬ before.Dead row →
    ∃ last, last.id = row.id ∧ last ∈ one.rows name ∧ last ∈ other.rows name
  left : ∀ row ∈ one.rows name, row ∉ other.rows name → row ∈ before.rows name ∧ before.Dead row
  right : ∀ row ∈ other.rows name, row ∉ one.rows name → row ∈ before.rows name ∧ before.Dead row
  others : ∀ apart, apart ≠ name → one.tables[apart]? = other.tables[apart]?

variable {name : String} {before one other : Database} {row : StoredMessage}

theorem mem_dropSwept (limit : Nat) (member : row ∈ before.rows name) (living : ¬ before.Dead row) :
    row ∈ before.dropSwept name limit := by
  unfold dropSwept
  cases clock : before.now with
  | error overflow => exact member
  | ok now =>
    refine Table.mem_dropSwept member (Bool.eq_false_iff.mpr fun swept => living ⟨now, clock, ?_⟩)
    exact StoredMessage.isSwept_iff.mp swept

/-- Tables that were swept and then changed alike differ in dead messages at most, if the change spares these. -/
theorem sameButDead_of_change {change : StoredMessage → StoredMessage} (ascending : Table.Ascending (before.rows name))
    (ids : ∀ row, (change row).id = row.id) (spares : ∀ row ∈ before.rows name, before.Dead row → change row = row)
    {limit hint : Nat} (here : one.rows name = (before.dropSwept name limit).map change)
    (there : other.rows name = (before.dropSwept name hint).map change)
    (others : ∀ apart, apart ≠ name → one.tables[apart]? = other.tables[apart]?) :
    SameButDead name before one other := by
  have order (limit : Nat) : Table.Ascending ((before.dropSwept name limit).map change) := by
    refine List.pairwise_map.mpr ((List.Pairwise.sublist (before.dropSwept_sublist name limit) ascending).imp ?_)
    intro first second less
    rw [ids, ids]
    exact less
  have kept (limit : Nat) (row : StoredMessage) (member : row ∈ before.rows name) (living : ¬ before.Dead row) :
      change row ∈ (before.dropSwept name limit).map change :=
    List.mem_map_of_mem (mem_dropSwept limit member living)
  -- Only a dead message can be gone from one side, and the change does not touch it.
  have lone (limit hint : Nat) (row : StoredMessage) (found : row ∈ (before.dropSwept name limit).map change)
      (missing : row ∉ (before.dropSwept name hint).map change) : row ∈ before.rows name ∧ before.Dead row := by
    obtain ⟨old, member, rfl⟩ := List.mem_map.mp found
    have present := (before.dropSwept_sublist name limit).subset member
    have dead : before.Dead old := by
      by_contra living
      exact missing (kept hint old present living)
    rw [spares old present dead]
    exact ⟨present, dead⟩
  refine ⟨⟨here ▸ order limit, there ▸ order hint⟩, fun row member living => ⟨change row, ids row, ?_, ?_⟩, ?_, ?_,
    others⟩
  · rw [here]
    exact kept limit row member living
  · rw [there]
    exact kept hint row member living
  · rw [here, there]
    exact lone limit hint
  · rw [here, there]
    exact lone hint limit

end Database

namespace Run

open Database

variable {queue : Queue} {options : ReceiveOptions} {before : Database}

theorem received_receipt (queue : Queue) (options : ReceiveOptions) (before : Database) (row : StoredMessage) :
    ((received queue options before).2 row).receipt = row.receipt := by
  rcases received_cases queue options before with ⟨_, same, _⟩ | ⟨now, visibility, _, same⟩
  · rw [same]
    rfl
  · rw [same]
    exact leasing_receipt now visibility _ row

theorem received_dead (ascending : Table.Ascending (before.rows queue.table)) {row : StoredMessage}
    (member : row ∈ before.rows queue.table) (dead : before.Dead row) :
    (received queue options before).2 row = row := by
  obtain ⟨present, clock, dead⟩ := dead
  rcases received_cases queue options before with ⟨_, same, _⟩ | ⟨now, visibility, read, same⟩
  · rw [same]
    rfl
  · cases clock.symm.trans read
    rw [same]
    exact leasing_dead visibility ascending member dead

/-- Receivers cannot tell whether or how a receive sweeps. Whatever the engines, the draws and the locks, it gives the
same answer and leaves the same messages but for dead ones. -/
theorem receive_hides_sweep {first second : Database} (same : SameButLocks first second)
    (ascending : Table.Ascending (first.rows queue.table)) (engine counterpart : SweepEngine) (drawn redrawn : Bool) :
    ((receive engine drawn queue options).run.run first).1 =
        ((receive counterpart redrawn queue options).run.run second).1 ∧
      SameButDead queue.table first ((receive engine drawn queue options).run.run first).2
        ((receive counterpart redrawn queue options).run.run second).2 := by
  obtain ⟨locks, localLocks, rfl⟩ := same
  let second : Database := { first with locks := locks, localLocks := localLocks }
  have again : Table.Ascending (second.rows queue.table) := ascending
  obtain ⟨one, ran, moves, limit, rows⟩ := @receive_received queue options first engine drawn ascending
  obtain ⟨other, reran, removes, hint, rerows⟩ := @receive_received queue options second counterpart redrawn again
  rw [ran, reran]
  refine ⟨rfl, sameButDead_of_change ascending ?_ ?_ rows rerows ?_⟩
  · exact fun row => StoredMessage.receipt_id (received_receipt queue options first row)
  · exact fun row member dead => received_dead ascending member dead
  · exact fun apart differ => (moves.others apart differ).trans (removes.others apart differ).symm

end Run

def chores : Queue := .named ⟨"chores", by decide +kernel⟩

/-- A dead message before one that is due. -/
def twoChores : Database :=
  Database.fresh.setTable chores.name
    ⟨⟨.default, 0, 3⟩, [⟨1, 1, 0, 0, some 0, 0, .empty, ∅⟩, ⟨2, 1, 0, 0, none, 5, .empty, ∅⟩]⟩

/-- The sweep of one receive removes the dead message; the other one does not sweep. -/
theorem dead_chore_hidden :
    let swept := (Run.receive ⟨.default, ""⟩ true chores ⟨1, none, none, [], none⟩).run.run twoChores
    let unswept := (Run.receive ⟨.disabled, ""⟩ false chores ⟨1, none, none, [], none⟩).run.run twoChores
    (swept.2.rowCount chores.name = 1 ∧ unswept.2.rowCount chores.name = 2) ∧
      swept.1 = unswept.1 ∧ Database.SameButDead chores.table twoChores swept.2 unswept.2 := by
  have ascending : Table.Ascending (twoChores.rows chores.table) := by
    unfold twoChores
    rw [show chores.table = chores.name.table from rfl, Database.rows_setTable]
    exact List.pairwise_pair.mpr (by decide)
  exact ⟨by decide +kernel, Run.receive_hides_sweep (.refl twoChores) ascending _ _ true false⟩

end LeaseQueue
