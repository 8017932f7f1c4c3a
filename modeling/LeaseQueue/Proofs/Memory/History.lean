import LeaseQueue.Proofs.Memory.Sends

/-!
Histories of an in-memory database: calls by any number of handles, one after the other, each on what the ones before
it left.
-/
namespace LeaseQueue

/-- What a handle can be asked, as far as it changes the database. -/
inductive Call
  | send (queue : Queue) (shard : Int) (messages : List NewMessage)
  | sendBatched (queue : Queue) (shard : Int) (messages : List NewMessage) (options : SendOptions)
  | receive (queue : Queue) (options : ReceiveOptions)
  | delete (queue : Queue) (ids : List MessageId)
  | mutate (queue : Queue) (mutations : List Mutation) (ids : List MessageId)
  | sweep (queue : Queue) (hint : Nat)
  /-- One batch of a sweep, for sweeps between whose batches other calls come. -/
  | sweepBatch (queue : Queue) (limit : Nat)
  | advanceClock (span : Int)
  /-- Nobody's call: time goes by, and locks are taken and released elsewhere. -/
  | elapse (wallClock : Instant) (locks : AdvisoryLocks) (localLocks : LocalLocks)

/-- How a call ended. -/
inductive Outcome
  | ids (result : Except Error (List MessageId))
  | sent (result : Except Error SendResult)
  | leased (result : Except Error (List LeasedMessage))
  | deleted (result : Except Error Nat)
  | mutated (result : Except Error (List MutationOutcome))
  | swept (result : Except Error SweepOutcome)
  | sweptBatch (result : Except Error Nat)
  | done
  /-- Date arithmetic overflowed. -/
  | stopped (overflow : Overflow)

/-- Whether the call stopped half-way. -/
def Outcome.isStopped : Outcome → Bool
  | stopped _ => true
  | _ => false

/-- The outcome of a call and what it leaves. -/
def Outcome.ofRun {α : Type} (give : α → Outcome) : Except Overflow α × Database → Outcome × Database
  | (.ok result, after) => (give result, after)
  | (.error overflow, after) => (.stopped overflow, after)

namespace Call

/-- The table that a call is about. -/
def table? : Call → Option String
  | send queue _ _ | sendBatched queue _ _ _ | receive queue _ | delete queue _ | mutate queue _ _ | sweep queue _
  | sweepBatch queue _ => some queue.table
  | advanceClock _ | elapse _ _ _ => none

/-- Whether the call may sweep, a receive before it leases. -/
def maySweep : Call → Bool
  | receive _ _ | sweep _ _ | sweepBatch _ _ => true
  | _ => false

/-- A send as a batched one; an all-or-nothing send has the default options. -/
def sending? : Call → Option (Queue × Int × List NewMessage × SendOptions)
  | send queue shard messages => some (queue, shard, messages, .default)
  | sendBatched queue shard messages options => some (queue, shard, messages, options)
  | _ => none

/-- Makes a call through a handle with the given sweep engine; `drawn` says whether a receive sweeps. -/
def perform (engine : SweepEngine) (drawn : Bool) (call : Call) (database : Database) : Outcome × Database :=
  let store := Run.store engine drawn
  match call with
  | send queue shard messages => Outcome.ofRun .ids ((store.send queue shard messages).run.run database)
  | sendBatched queue shard messages options =>
    Outcome.ofRun .sent ((store.sendBatched queue shard messages options).run.run database)
  | receive queue options => Outcome.ofRun .leased ((store.receive queue options).run.run database)
  | delete queue ids => Outcome.ofRun .deleted ((store.delete queue ids).run.run database)
  | mutate queue mutations ids => Outcome.ofRun .mutated ((store.mutate queue mutations ids).run.run database)
  | sweep queue hint => Outcome.ofRun .swept ((store.sweep queue hint).run.run database)
  | sweepBatch queue limit => Outcome.ofRun .sweptBatch ((Run.deleteDead queue.name limit).run.run database)
  | advanceClock span => Outcome.ofRun (fun _ => .done) ((Run.advanceClock span).run.run database)
  | elapse wallClock locks localLocks =>
    (.done, { database with wallClock := wallClock, locks := locks, localLocks := localLocks })

end Call

/-- A call that was made, and on what. -/
structure Entry where
  engine : SweepEngine
  drawn : Bool
  call : Call
  before : Database

namespace Entry

def outcome (entry : Entry) : Outcome := (entry.call.perform entry.engine entry.drawn entry.before).1

def after (entry : Entry) : Database := (entry.call.perform entry.engine entry.drawn entry.before).2

/-- The messages that the call reports as sent to a table, with their ids. -/
def sent (entry : Entry) (name : String) : List Post :=
  match entry.call, entry.outcome with
  | .send queue _ messages, .ids (.ok ids) => if queue.table = name then queue.posts messages (ids.map some) else []
  | .sendBatched queue _ messages _, .sent (.ok result) =>
    if queue.table = name then queue.posts messages result.ids else []
  | _, _ => []

end Entry

/-- The calls that lead from one database to another, last ones first. -/
inductive History (start : Database) : List Entry → Database → Prop
  | start : History start [] start
  | call {past : List Entry} {database : Database} (earlier : History start past database) (engine : SweepEngine)
      (drawn : Bool) (call : Call) :
      History start (⟨engine, drawn, call, database⟩ :: past)
        (Entry.after ⟨engine, drawn, call, database⟩)

/-- Every call of a history has a history of its own before it. -/
theorem History.earlier {start database : Database} {past : List Entry} (history : History start past database)
    {entry : Entry} (member : entry ∈ past) :
    ∃ earlier, (entry :: earlier) <:+ past ∧ History start earlier entry.before := by
  induction history with
  | start => cases member
  | @call past database history engine drawn call ih =>
    rcases List.mem_cons.mp member with rfl | member
    · exact ⟨past, List.suffix_refl _, history⟩
    · obtain ⟨earlier, suffix, made⟩ := ih member
      exact ⟨earlier, suffix.trans (List.suffix_cons _ _), made⟩

/-- The history of given calls, last ones first. -/
def replay (start : Database) : List (SweepEngine × Bool × Call) → List Entry × Database
  | [] => ([], start)
  | (engine, drawn, call) :: earlier =>
    let (past, database) := replay start earlier
    (⟨engine, drawn, call, database⟩ :: past, Entry.after ⟨engine, drawn, call, database⟩)

theorem replay_history (start : Database) (calls : List (SweepEngine × Bool × Call)) :
    History start (replay start calls).1 (replay start calls).2 := by
  induction calls with
  | nil => exact .start
  | cons call earlier ih => exact .call ih call.1 call.2.1 call.2.2

/-- A new database. Its largest bucket is a 32-bit number. -/
def Database.Opened (database : Database) : Prop :=
  ∃ maxBucket ≤ Int32.maxValue.toInt, ∃ layout bucket wallClock,
    IdLayout.ofMaxBucket maxBucket = .ok layout ∧ Database.ofIdentifiers layout bucket wallClock = .ok database

/-- A database with the default layout, at the beginning of time. -/
def Database.fresh : Database := ⟨.default, 0, ∅, 0, 0, .none, .none⟩

/-- A name for queues to try things on. -/
def QueueName.jobs : QueueName := ⟨"jobs", by decide +kernel⟩

theorem Database.fresh_opened : fresh.Opened :=
  ⟨defaultMaxBucket, by decide, .default, 0, 0, rfl, rfl⟩

theorem Database.Opened.start {database : Database} (opened : database.Opened) :
    database.layout.Small ∧ ∀ name, database.rows name = [] ∧ database.HasDrawn name 0 := by
  obtain ⟨maxBucket, small, layout, bucket, wallClock, laid, made⟩ := opened
  unfold Database.ofIdentifiers at made
  cases valid : layout.encode bucket 0 with
  | error failure => rw [valid] at made; cases made
  | ok first =>
    rw [valid] at made
    cases made
    constructor
    · unfold IdLayout.ofMaxBucket at laid
      split at laid
      · cases laid
      · cases laid
        exact small
    · intro name
      unfold Database.rows Database.HasDrawn
      simp

namespace Entry

open Database

/-- Layout, bucket and a table are the same before and after. -/
structure Same (name : String) (before after : Database) : Prop where
  layout : after.layout = before.layout
  bucket : after.bucket = before.bucket
  table : after.tables[name]? = before.tables[name]?

theorem Same.rows {name : String} {before after : Database} (same : Same name before after) :
    after.rows name = before.rows name := by
  unfold Database.rows
  rw [same.table]

theorem Same.drawn {name : String} {before after : Database} (same : Same name before after) {calls : Nat}
    (drawn : before.HasDrawn name calls) : after.HasDrawn name calls := by
  unfold HasDrawn at drawn ⊢
  rw [same.table, same.layout, same.bucket]
  exact drawn

theorem ofRun_after {α : Type} (give : α → Outcome) (ran : Except Overflow α × Database) :
    (Outcome.ofRun give ran).2 = ran.2 := by
  rcases ran with ⟨overflow | result, after⟩ <;> rfl

/-- A call that is a run ends as the run does. -/
theorem ofRun_ended {α : Type} (give : α → Outcome) (ran : Except Overflow α × Database) :
    ∃ outcome, ran = (outcome, (Outcome.ofRun give ran).2) ∧
      (Outcome.ofRun give ran).1 = (Outcome.ofRun give (outcome, (Outcome.ofRun give ran).2)).1 :=
  ⟨ran.1, by rw [ofRun_after], by rw [ofRun_after]⟩

section Inversion

variable {entry : Entry} {queue : Queue}

theorem of_send {shard : Int} {messages : List NewMessage} (made : entry.call = .send queue shard messages) :
    ∃ outcome, ((Run.store entry.engine entry.drawn).send queue shard messages).run.run entry.before =
        (outcome, entry.after) ∧ entry.outcome = (Outcome.ofRun .ids (outcome, entry.after)).1 := by
  obtain ⟨engine, drawn, call, before⟩ := entry
  cases made
  exact ofRun_ended .ids _

theorem of_sendBatched {shard : Int} {messages : List NewMessage} {options : SendOptions}
    (made : entry.call = .sendBatched queue shard messages options) :
    ∃ outcome, (Run.sendBatched queue shard messages options).run.run entry.before = (outcome, entry.after) ∧
      entry.outcome = (Outcome.ofRun .sent (outcome, entry.after)).1 := by
  obtain ⟨engine, drawn, call, before⟩ := entry
  cases made
  exact ofRun_ended .sent _

theorem of_receive {options : ReceiveOptions} (made : entry.call = .receive queue options) :
    ∃ outcome, (Run.receive entry.engine entry.drawn queue options).run.run entry.before = (outcome, entry.after) ∧
      entry.outcome = (Outcome.ofRun .leased (outcome, entry.after)).1 := by
  obtain ⟨engine, drawn, call, before⟩ := entry
  cases made
  exact ofRun_ended .leased _

theorem of_delete {ids : List MessageId} (made : entry.call = .delete queue ids) :
    ∃ outcome, (Run.delete queue ids).run.run entry.before = (outcome, entry.after) ∧
      entry.outcome = (Outcome.ofRun .deleted (outcome, entry.after)).1 := by
  obtain ⟨engine, drawn, call, before⟩ := entry
  cases made
  exact ofRun_ended .deleted _

theorem of_mutate {mutations : List Mutation} {ids : List MessageId}
    (made : entry.call = .mutate queue mutations ids) :
    ∃ outcome, (Run.mutate queue mutations ids).run.run entry.before = (outcome, entry.after) ∧
      entry.outcome = (Outcome.ofRun .mutated (outcome, entry.after)).1 := by
  obtain ⟨engine, drawn, call, before⟩ := entry
  cases made
  exact ofRun_ended .mutated _

theorem of_sweep {hint : Nat} (made : entry.call = .sweep queue hint) :
    ∃ outcome, (Run.sweep entry.engine queue hint).run.run entry.before = (outcome, entry.after) ∧
      entry.outcome = (Outcome.ofRun .swept (outcome, entry.after)).1 := by
  obtain ⟨engine, drawn, call, before⟩ := entry
  cases made
  exact ofRun_ended .swept _

theorem of_sweepBatch {limit : Nat} (made : entry.call = .sweepBatch queue limit) :
    ∃ outcome, (Run.deleteDead queue.name limit).run.run entry.before = (outcome, entry.after) ∧
      entry.outcome = (Outcome.ofRun .sweptBatch (outcome, entry.after)).1 := by
  obtain ⟨engine, drawn, call, before⟩ := entry
  cases made
  exact ofRun_ended .sweptBatch _

end Inversion

/-- What a send reports, whichever form it has, is what its batch comes to. -/
theorem of_sending {entry : Entry} {queue : Queue} {shard : Int} {messages : List NewMessage} {options : SendOptions}
    (made : entry.call.sending? = some (queue, shard, messages, options)) :
    ∃ batch, (Run.sendBatched queue shard messages options).run.run entry.before = (batch, entry.after) ∧
      entry.sent queue.table = Run.posted queue messages batch := by
  unfold sent
  cases call : entry.call <;> rw [call] at made <;> cases made
  · obtain ⟨outcome, ran, ended⟩ := of_send call
    obtain ⟨batch, sent, whole, nothing⟩ := Run.send_cases entry.engine entry.drawn ran
    refine ⟨batch, sent, ?_⟩
    rw [ended]
    rcases outcome with overflow | failure | ids
    · exact (nothing nofun).symm
    · exact (nothing nofun).symm
    · exact (if_pos rfl).trans (whole ids rfl).2.symm
  · obtain ⟨outcome, ran, ended⟩ := of_sendBatched call
    refine ⟨outcome, ran, ?_⟩
    rw [ended]
    rcases outcome with overflow | failure | result
    · rfl
    · rfl
    · exact if_pos rfl

/-- A call reports messages as sent to its own table only, and only if it is a send. -/
theorem sent_nil {entry : Entry} {name : String} (other : entry.call.sending? = none ∨ entry.call.table? ≠ some name) :
    entry.sent name = [] := by
  unfold sent
  split
  · rename_i queue shard messages ids made _
    rw [made] at other
    exact if_neg fun same => other.elim nofun fun apart => apart (congrArg some same)
  · rename_i queue shard messages options result made _
    rw [made] at other
    exact if_neg fun same => other.elim nofun fun apart => apart (congrArg some same)
  · rfl

theorem advanceClock_same (span : Int) (before : Database) (name : String) :
    Same name before ((Run.advanceClock span).run.run before).2 := by
  unfold Run.advanceClock
  rw [run_bind, run_get]
  dsimp only
  cases addSpans before.offset span with
  | error overflow => exact ⟨rfl, rfl, rfl⟩
  | ok offset => exact ⟨rfl, rfl, rfl⟩

/-- A call moves no table but its own. -/
theorem moves (entry : Entry) {name : String} (own : entry.call.table? = some name) :
    Moves name entry.before entry.after := by
  obtain ⟨engine, drawn, call, before⟩ := entry
  unfold Entry.after Call.perform
  cases call with
  | send queue shard messages =>
    cases own
    rw [ofRun_after]
    exact Run.send_moves engine drawn queue shard messages before
  | sendBatched queue shard messages options =>
    cases own
    rw [ofRun_after]
    exact Run.sendBatched_moves queue shard messages options before
  | receive queue options =>
    cases own
    rw [ofRun_after]
    exact Run.receive_moves engine drawn queue options before
  | delete queue ids =>
    cases own
    rw [ofRun_after]
    obtain ⟨removed, _, keeps, _⟩ := Run.delete_run queue ids before
    exact keeps.toMoves
  | mutate queue mutations ids =>
    cases own
    rw [ofRun_after]
    exact Run.mutate_moves queue mutations ids before
  | sweep queue hint =>
    cases own
    rw [ofRun_after]
    exact (Run.sweep_run engine queue hint rfl).1.toMoves
  | sweepBatch queue limit =>
    cases own
    rw [ofRun_after]
    exact (Run.deleteDead_run limit rfl).1.toMoves
  | advanceClock span => cases own
  | elapse wallClock locks localLocks => cases own

theorem same (entry : Entry) {name : String} (apart : entry.call.table? ≠ some name) :
    Same name entry.before entry.after := by
  cases own : entry.call.table? with
  | some other =>
    have moves := entry.moves own
    exact ⟨moves.layout, moves.bucket, moves.others name fun equal => apart (equal ▸ own)⟩
  | none =>
    obtain ⟨engine, drawn, call, before⟩ := entry
    unfold Entry.after Call.perform
    cases call with
    | advanceClock span =>
      rw [ofRun_after]
      exact advanceClock_same span before name
    | elapse wallClock locks localLocks => exact ⟨rfl, rfl, rfl⟩
    | send | sendBatched | receive | delete | mutate | sweep | sweepBatch => cases own

theorem identity (entry : Entry) :
    entry.after.layout = entry.before.layout ∧ entry.after.bucket = entry.before.bucket := by
  cases own : entry.call.table? with
  | some name => exact ⟨(entry.moves own).layout, (entry.moves own).bucket⟩
  | none =>
    have same : Same "" entry.before entry.after := entry.same (by rw [own]; exact nofun)
    exact ⟨same.layout, same.bucket⟩

end Entry

end LeaseQueue
