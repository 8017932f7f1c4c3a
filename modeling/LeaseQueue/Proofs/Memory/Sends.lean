import LeaseQueue.Proofs.Memory.Calls
import LeaseQueue.Proofs.Queue.Report

/-!
What a send does to a database: the rows of the messages that got an id come behind those of the table.
-/
namespace LeaseQueue

open Database

namespace Run

/-- The sequence that a send to the queue takes ids from. -/
def sequenceOf (queue : Queue) (database : Database) : Except Error IdSequence :=
  match database.table? queue.name with
  | some table => .ok table.sequence
  | none => IdSequence.start database.layout database.bucket

/-- How many ids a send asks for. -/
def sendDrawn (queue : Queue) (shard : Int) (messages : List NewMessage) (options : SendOptions)
    (database : Database) : Nat :=
  match options.validate, database.now, sequenceOf queue database with
  | .ok (), .ok now, .ok sequence =>
    Stage.batchDrawn options.partialInsert queue shard now ⟨sequence, []⟩ (chunks options.batchSize messages)
  | _, _, _ => 0

variable {queue : Queue} {before after : Database} {calls : Nat}

theorem openTable_run (queue : Queue) (before : Database) :
    (openTable queue.name).run.run before =
      match before.table? queue.name, IdSequence.start before.layout before.bucket with
      | some table, _ => (.ok (.ok table), before)
      | none, .error failure => (.ok (.error failure), before)
      | none, .ok sequence => (.ok (.ok ⟨sequence, []⟩), before.setTable queue.name ⟨sequence, []⟩) := by
  unfold openTable
  rw [run_bind, run_get]
  dsimp only
  cases before.table? queue.name with
  | some table => rfl
  | none =>
    dsimp only
    cases IdSequence.start before.layout before.bucket <;> rfl

/-! A send changes no table but its own. -/

theorem openTable_moves (queue : Queue) (before : Database) :
    Moves queue.table before ((openTable queue.name).run.run before).2 := by
  rw [openTable_run]
  cases before.table? queue.name with
  | some table => exact .refl _ _
  | none =>
    cases IdSequence.start before.layout before.bucket with
    | error failure => exact .refl _ _
    | ok sequence => exact before.setTable_moves queue.name _

theorem place_moves (queue : Queue) (shard : Int) (messages : List NewMessage) (options : SendOptions) (now : Instant)
    (table : Table) (before : Database) :
    Moves queue.table before ((place queue shard messages options now table).run.run before).2 := by
  unfold place
  dsimp only
  rcases (placeChunks options.partialInsert messages.length (Stage.chunk queue shard now) .empty
    (chunks options.batchSize messages)).run.run ⟨table.sequence, []⟩ with ⟨overflow | placement, staging⟩
  · exact before.setTable_moves queue.name _
  · exact before.setTable_moves queue.name _

theorem sendBatched_moves (queue : Queue) (shard : Int) (messages : List NewMessage) (options : SendOptions)
    (before : Database) : Moves queue.table before ((sendBatched queue shard messages options).run.run before).2 := by
  unfold sendBatched
  cases options.validate with
  | error failure => exact .refl _ _
  | ok _ =>
    dsimp only
    split
    · exact .refl _ _
    · refine .bind (now_moves queue.table before) fun now read => .bind (openTable_moves queue read) ?_
      rintro (failure | table) opened
      · exact .refl _ _
      · exact .bind (place_moves queue shard messages options now table opened) fun _ _ => .refl _ _

theorem send_moves (engine : SweepEngine) (draw : Bool) (queue : Queue) (shard : Int) (messages : List NewMessage)
    (before : Database) :
    Moves queue.table before (((store engine draw).send queue shard messages).run.run before).2 :=
  .bind (sendBatched_moves queue shard messages .default before) fun _ _ => .refl _ _

/-! What a send adds to its own. -/

/-- The table that a send works on has the rows and the sequence of the queue. -/
theorem openTable_spec {table : Table} {opened : Database}
    (ran : (openTable queue.name).run.run before = (.ok (.ok table), opened)) :
    table.rows = before.rows queue.table ∧ sequenceOf queue before = .ok table.sequence := by
  rw [openTable_run] at ran
  unfold sequenceOf
  cases found : before.table? queue.name with
  | some table =>
    rw [found] at ran
    cases ran
    exact ⟨(rows_of_table found).symm, rfl⟩
  | none =>
    cases started : IdSequence.start before.layout before.bucket with
    | error failure =>
      rw [found, started] at ran
      cases ran
    | ok sequence =>
      rw [found, started] at ran
      cases ran
      exact ⟨(rows_of_none found).symm, rfl⟩

theorem sequenceOf_drawn (drawn : before.HasDrawn queue.table calls) {sequence : IdSequence}
    (found : sequenceOf queue before = .ok sequence) : sequence = .afterCalls before.layout before.bucket calls := by
  unfold sequenceOf at found
  unfold HasDrawn at drawn
  cases there : before.table? queue.name with
  | some table =>
    rw [show before.tables[queue.table]? = some table from there] at drawn
    rw [there] at found
    cases found
    exact drawn
  | none =>
    rw [show before.tables[queue.table]? = none from there] at drawn
    rw [there] at found
    subst drawn
    exact IdSequence.start_eq found

/-- The messages that a batch reports an id for. -/
def posted (queue : Queue) (messages : List NewMessage) : Except Overflow (Except Error SendResult) → List Post
  | .ok (.ok result) => queue.posts messages result.ids
  | _ => []

theorem posted_quiet {messages : List NewMessage} {outcome : Except Overflow (Except Error SendResult)}
    (quiet : messages = [] ∧ outcome = .ok (.ok .empty) ∨ ∀ result, outcome ≠ .ok (.ok result)) :
    posted queue messages outcome = [] := by
  rcases quiet with ⟨rfl, rfl⟩ | failed
  · rfl
  · rcases outcome with overflow | failure | result
    · rfl
    · rfl
    · exact absurd rfl (failed result)

/-- The rows of a batch that is not given up come to those of the table. -/
theorem place_extends {shard : Int} {messages : List NewMessage} {options : SendOptions}
    (valid : options.batchSize ≠ 0) {now : Instant} {table : Table} {outcome : Except Overflow SendResult}
    (ran : (place queue shard messages options now table).run.run before = (outcome, after)) :
    after.rows queue.table = Table.extend table.rows
        ((posted queue messages (outcome.map .ok)).map fun post => post.stored now) ∧
      ∀ result, outcome = .ok result → messages.length = result.ids.length := by
  unfold place at ran
  dsimp only at ran
  have split : messages = [] ++ (chunks options.batchSize messages).flatten := (flatten_chunks valid messages).symm
  rcases batch : (placeChunks options.partialInsert messages.length (Stage.chunk queue shard now) .empty
    (chunks options.batchSize messages)).run.run ⟨table.sequence, []⟩ with ⟨overflow | placement, staging⟩ <;>
    rw [batch] at ran <;> cases ran
  · exact ⟨(rows_setTable before queue.name _).trans (Table.extend_nil _).symm, nofun⟩
  · obtain ⟨long, rows⟩ := placeChunks_placed options.partialInsert queue shard now split rfl rfl batch
    refine ⟨(rows_setTable before queue.name _).trans ?_, fun result same => ?_⟩
    · refine Eq.trans ?_ (congrArg (Table.extend table.rows) rows)
      dsimp only
      split
      · rfl
      · exact (Table.extend_nil _).symm
    · cases same
      exact long

/-- The ids of a batch are used up however it ends. -/
theorem place_minted (small : before.layout.Small) {shard : Int} {messages : List NewMessage} {options : SendOptions}
    (valid : options.batchSize ≠ 0) {now : Instant} {table : Table}
    (sequence : table.sequence = .afterCalls before.layout before.bucket calls) {count : Nat}
    (total : Stage.batchDrawn options.partialInsert queue shard now ⟨table.sequence, []⟩
      (chunks options.batchSize messages) = count) (few : calls + count < 2 ^ 64) {outcome : Except Overflow SendResult}
    (ran : (place queue shard messages options now table).run.run before = (outcome, after)) :
    after.HasDrawn queue.table (calls + count) ∧ Minted before.layout before.bucket calls (calls + count)
      ((posted queue messages (outcome.map .ok)).map fun post => post.id.localId) := by
  unfold place at ran
  dsimp only at ran
  have split : messages = [] ++ (chunks options.batchSize messages).flatten := (flatten_chunks valid messages).symm
  rcases batch : (placeChunks options.partialInsert messages.length (Stage.chunk queue shard now) .empty
    (chunks options.batchSize messages)).run.run ⟨table.sequence, []⟩ with ⟨result, staging⟩
  obtain ⟨moved, minted⟩ := placeChunks_minted small options.partialInsert queue shard now (Nat.le_refl calls) sequence
    (.nil _ _ _ _) total few batch
  rw [batch] at ran
  cases result with
  | error overflow =>
    cases ran
    exact ⟨setTable_hasDrawn moved, .nil _ _ _ _⟩
  | ok placement =>
    cases ran
    refine ⟨setTable_hasDrawn moved, ?_⟩
    obtain ⟨_, rows⟩ := placeChunks_placed options.partialInsert queue shard now split rfl rfl batch
    have ids : (posted queue messages (.ok (.ok placement.result))).map (fun post => post.id.localId) =
        (queue.placed now messages placement.result.ids).map StoredMessage.id := by
      unfold Queue.placed
      rw [List.map_map]
      rfl
    refine Eq.mpr (congrArg _ (ids.trans (congrArg _ rows.symm))) ?_
    split
    · exact minted
    · exact .nil _ _ _ _

/-- A batched send does nothing, or places a batch in an open table. -/
theorem sendBatched_cases {shard : Int} {messages : List NewMessage} {options : SendOptions}
    {outcome : Except Overflow (Except Error SendResult)}
    (ran : (sendBatched queue shard messages options).run.run before = (outcome, after)) :
    (after = before ∧ sendDrawn queue shard messages options before = 0 ∧
      (messages = [] ∧ outcome = .ok (.ok .empty) ∨ ∀ result, outcome ≠ .ok (.ok result))) ∨
    ∃ now table opened result, before.now = .ok now ∧ options.batchSize ≠ 0 ∧
      (openTable queue.name).run.run before = (.ok (.ok table), opened) ∧
      (place queue shard messages options now table).run.run opened = (result, after) ∧ outcome = result.map .ok ∧
      sendDrawn queue shard messages options before =
        Stage.batchDrawn options.partialInsert queue shard now ⟨table.sequence, []⟩
          (chunks options.batchSize messages) := by
  unfold sendBatched at ran
  unfold sendDrawn
  cases valid : options.validate with
  | error failure =>
    rw [valid] at ran
    cases ran
    exact .inl ⟨rfl, rfl, .inr nofun⟩
  | ok _ =>
    rw [valid] at ran
    dsimp only at ran
    cases messages with
    | nil =>
      cases ran
      refine .inl ⟨rfl, ?_, .inl ⟨rfl, rfl⟩⟩
      unfold chunks
      simp only [or_true, if_true]
      split <;> rfl
    | cons first rest =>
      rw [if_neg (by simp), run_bind, now_run] at ran
      cases clock : before.now with
      | error overflow =>
        rw [clock] at ran
        cases ran
        exact .inl ⟨rfl, rfl, .inr nofun⟩
      | ok now =>
        rw [clock] at ran
        dsimp only at ran
        rw [run_bind] at ran
        rcases opening : (openTable queue.name).run.run before with ⟨overflow | failure | table, opened⟩
        · rw [openTable_run] at opening
          cases found : before.table? queue.name <;> rw [found] at opening
          · cases started : IdSequence.start before.layout before.bucket <;> rw [started] at opening <;> cases opening
          · cases opening
        · rw [opening] at ran
          cases ran
          have same : after = before ∧ ∃ failure, sequenceOf queue before = .error failure := by
            rw [openTable_run] at opening
            unfold sequenceOf
            cases found : before.table? queue.name <;> rw [found] at opening
            · cases started : IdSequence.start before.layout before.bucket <;> rw [started] at opening <;> cases opening
              exact ⟨rfl, _, rfl⟩
            · cases opening
          obtain ⟨rfl, failure, started⟩ := same
          rw [started]
          exact .inl ⟨rfl, rfl, .inr nofun⟩
        · rw [opening] at ran
          dsimp only at ran
          rw [run_bind] at ran
          obtain ⟨_, sequence⟩ := openTable_spec opening
          rw [sequence]
          rcases placing : (place queue shard (first :: rest) options now table).run.run opened with
            ⟨overflow | result, last⟩ <;> rw [placing] at ran <;> cases ran <;>
            exact .inr ⟨now, table, opened, _, rfl, SendOptions.validate_ok valid, rfl, placing, rfl, rfl⟩

/-- What a batched send adds to its table: a row for each id that it reports. -/
theorem sendBatched_extends {shard : Int} {messages : List NewMessage} {options : SendOptions}
    {outcome : Except Overflow (Except Error SendResult)}
    (ran : (sendBatched queue shard messages options).run.run before = (outcome, after)) :
    (∃ now, (before.now = .ok now ∨ posted queue messages outcome = []) ∧ after.rows queue.table =
      Table.extend (before.rows queue.table) ((posted queue messages outcome).map fun post => post.stored now)) ∧
      ∀ result, outcome = .ok (.ok result) → messages.length = result.ids.length := by
  rcases sendBatched_cases ran with
    ⟨rfl, _, quiet⟩ | ⟨now, table, opened, result, clock, valid, opening, placing, rfl, _⟩
  · rw [posted_quiet quiet]
    refine ⟨⟨0, .inr rfl, (Table.extend_nil _).symm⟩, fun result same => ?_⟩
    rcases quiet with ⟨rfl, equal⟩ | failed
    · rw [equal] at same
      cases same
      rfl
    · exact absurd same (failed result)
  · obtain ⟨rows, _⟩ := openTable_spec opening
    obtain ⟨extended, long⟩ := place_extends valid placing
    rw [← rows]
    refine ⟨⟨now, .inl clock, extended⟩, fun found same => ?_⟩
    rcases result with overflow | result
    · cases same
    · cases same
      exact long _ rfl

/-- A batched send uses up the ids that it asks for, and those that it reports are among them. -/
theorem sendBatched_minted (small : before.layout.Small) (drawn : before.HasDrawn queue.table calls) {shard : Int}
    {messages : List NewMessage} {options : SendOptions}
    (few : calls + sendDrawn queue shard messages options before < 2 ^ 64)
    {outcome : Except Overflow (Except Error SendResult)}
    (ran : (sendBatched queue shard messages options).run.run before = (outcome, after)) :
    after.HasDrawn queue.table (calls + sendDrawn queue shard messages options before) ∧
      Minted before.layout before.bucket calls (calls + sendDrawn queue shard messages options before)
        ((posted queue messages outcome).map fun post => post.id.localId) := by
  rcases sendBatched_cases ran with
    ⟨rfl, none, quiet⟩ | ⟨now, table, opened, result, clock, valid, opening, placing, rfl, total⟩
  · rw [none, posted_quiet quiet]
    exact ⟨drawn, .nil _ _ _ _⟩
  · obtain ⟨_, sequence⟩ := openTable_spec opening
    have moves := openTable_moves queue before
    rw [opening] at moves
    rw [total] at few ⊢
    have start := sequenceOf_drawn drawn sequence
    rw [← moves.layout, ← moves.bucket] at start ⊢
    exact place_minted (moves.layout ▸ small) valid start rfl few placing

end Run

/-- All messages of a batch have ids, or it failed as a whole. -/
def SendResult.Whole (total : Nat) (result : SendResult) : Prop :=
  (result.failures = [] ∧ result.ids = result.sent.map some) ∨ ∃ failure, result = .allFailed total failure

theorem placeChunks_whole (queue : Queue) (shard : Int) (now : Instant) {total : Nat} {pieces : List (List NewMessage)}
    {result : SendResult} (clean : result.failures = []) (full : result.ids = result.sent.map some)
    {staging after : Staging} {placement : Placement}
    (ran : (placeChunks .prohibited total (Stage.chunk queue shard now) result pieces).run.run staging =
      (.ok placement, after)) : placement.result.Whole total := by
  induction pieces generalizing result staging with
  | nil =>
    cases ran
    exact .inl ⟨clean, full⟩
  | cons piece rest ih =>
    rw [placeChunks, run_bind] at ran
    rcases wrote : (Stage.chunk queue shard now piece).run.run staging with ⟨overflow | failure | ids, last⟩ <;>
      rw [wrote] at ran
    · cases ran
    · cases ran
      exact .inr ⟨failure, rfl⟩
    · have grown : (result.addSent ids).failures = [] := clean
      refine ih grown ?_ ran
      unfold SendResult.addSent SendResult.sent at *
      dsimp only
      rw [List.filterMap_append, List.map_append, ← full, List.filterMap_map]
      simp

namespace Run

theorem sendBatched_whole {shard : Int} {messages : List NewMessage} {result : SendResult}
    (ran : (sendBatched queue shard messages .default).run.run before = (.ok (.ok result), after)) :
    result.Whole messages.length := by
  unfold sendBatched at ran
  rw [show SendOptions.default.validate = .ok () from rfl] at ran
  dsimp only at ran
  split at ran
  · cases ran
    exact .inl ⟨rfl, rfl⟩
  · rw [run_bind] at ran
    rcases clock : now.run.run before with ⟨overflow | instant, read⟩ <;> rw [clock] at ran
    · cases ran
    · dsimp only at ran
      rw [run_bind] at ran
      rcases opening : (openTable queue.name).run.run read with ⟨overflow | failure | table, opened⟩ <;>
        rw [opening] at ran
      · cases ran
      · cases ran
      · dsimp only at ran
        rw [run_bind] at ran
        unfold place at ran
        dsimp only at ran
        rcases batch : (placeChunks SendOptions.default.partialInsert messages.length
          (Stage.chunk queue shard instant) .empty (chunks SendOptions.default.batchSize messages)).run.run
            ⟨table.sequence, []⟩ with ⟨overflow | placement, staging⟩ <;> rw [batch] at ran
        · cases ran
        · cases ran
          exact placeChunks_whole queue shard instant rfl rfl batch

/-- An all-or-nothing send is a batched send that reports all of its ids or none. -/
theorem send_cases (engine : SweepEngine) (draw : Bool) {shard : Int} {messages : List NewMessage}
    {outcome : Except Overflow (Except Error (List MessageId))}
    (ran : ((store engine draw).send queue shard messages).run.run before = (outcome, after)) :
    ∃ batch, (sendBatched queue shard messages .default).run.run before = (batch, after) ∧
      (∀ ids, outcome = .ok (.ok ids) → messages.length = ids.length ∧
        posted queue messages batch = queue.posts messages (ids.map some)) ∧
      ((∀ ids, outcome ≠ .ok (.ok ids)) → posted queue messages batch = []) := by
  unfold QueueStore.send at ran
  rw [run_bind] at ran
  rcases sent : (sendBatched queue shard messages .default).run.run before with ⟨batch, last⟩
  rw [show ((store engine draw).sendBatched queue shard messages .default).run.run before = (batch, last)
    from sent] at ran
  obtain ⟨_, long⟩ := sendBatched_extends sent
  rcases batch with overflow | failure | result
  · cases ran
    exact ⟨_, rfl, nofun, fun _ => rfl⟩
  · cases ran
    exact ⟨_, rfl, nofun, fun _ => rfl⟩
  · cases ran
    refine ⟨_, rfl, ?_⟩
    rcases sendBatched_whole sent with ⟨clean, full⟩ | ⟨failure, rfl⟩
    · have good : result.toExcept = .ok result.sent := by
        unfold SendResult.toExcept
        rw [clean]
      have same : (Except.ok result : Except Error SendResult).bind SendResult.toExcept = .ok result.sent := good
      rw [same]
      refine ⟨fun ids equal => ?_, fun other => absurd rfl (other _)⟩
      cases equal
      have count := long result rfl
      rw [full, List.length_map] at count
      exact ⟨count, congrArg (queue.posts messages) full⟩
    · exact ⟨nofun, fun _ => queue.posts_none messages messages.length⟩

end Run

end LeaseQueue
