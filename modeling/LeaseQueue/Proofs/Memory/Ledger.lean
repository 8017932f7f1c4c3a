import LeaseQueue.Proofs.Memory.History

/-!
The ledger of a queue: what was sent, less what was deleted and swept. The table of the queue is its ledger at any
point of any history.
-/
namespace LeaseQueue

namespace Entry

/-- How many ids the call asks the sequence of a table for. -/
def requested (entry : Entry) (name : String) : Nat :=
  match entry.call.sending? with
  | some (queue, shard, messages, options) =>
    if queue.table = name then Run.sendDrawn queue shard messages options entry.before else 0
  | none => 0

/-- The time of the call. -/
def time (entry : Entry) : Instant :=
  match entry.before.now with
  | .ok now => now
  | .error _ => 0

/-- A message as it was sent by the call. -/
def receipt (entry : Entry) (post : Post) : Receipt :=
  ⟨post.id, entry.time, post.message.payload, post.message.metadata⟩

/-- Whether the call takes a message out of a table: a deletion all that it names, and a sweep those that are gone
when it is over. -/
def removes (entry : Entry) (name : String) (id : MessageId) : Bool :=
  match entry.call with
  | .delete queue ids => queue.table = name && id ∈ ids
  | .receive queue _ | .sweep queue _ | .sweepBatch queue _ =>
    queue.table = name && id.localId ∉ (entry.after.rows name).map StoredMessage.id
  | _ => false

/-- The number of removed messages that the call reports. -/
def count? (entry : Entry) : Option Nat :=
  match entry.outcome with
  | .deleted (.ok count) | .sweptBatch (.ok count) => some count
  | .swept (.ok outcome) => some outcome.removed
  | _ => none

end Entry

/-- How many ids the sequence of a table was asked for in the course of a history. -/
def requested (name : String) : List Entry → Nat
  | [] => 0
  | entry :: past => requested name past + entry.requested name

/-- The local ids that sends have reported, in their order. -/
def reported (name : String) : List Entry → List Int
  | [] => []
  | entry :: past => reported name past ++ (entry.sent name).map fun post => post.id.localId

/-- What was sent to a table and not removed from it since, in the order of sending. -/
def ledger (name : String) : List Entry → List Receipt
  | [] => []
  | entry :: past =>
    (ledger name past).filter (fun receipt => !entry.removes name receipt.address) ++ (entry.sent name).map entry.receipt

/-- A part of a list without repetitions is told by what it holds. -/
theorem sublist_eq_filter {α β : Type} [DecidableEq β] (key : α → β) {part whole : List α}
    (inside : part.Sublist whole) (distinct : (whole.map key).Nodup) :
    whole.filter (fun x => key x ∈ part.map key) = part := by
  induction inside with
  | slnil => rfl
  | cons x inside ih =>
    obtain ⟨fresh, distinct⟩ := List.nodup_cons.mp distinct
    have absent : key x ∉ List.map key _ := fun member => fresh ((inside.map key).subset member)
    rw [List.filter_cons_of_neg (by simpa using absent), ih distinct]
  | @cons_cons part whole x inside ih =>
    obtain ⟨fresh, distinct⟩ := List.nodup_cons.mp distinct
    rw [List.filter_cons_of_pos (by simp)]
    refine congrArg (x :: ·) (Eq.trans (List.filter_congr fun other there => ?_) (ih distinct))
    have apart : key other ≠ key x := fun same => fresh (same ▸ List.mem_map_of_mem there)
    simp [apart]

namespace Entry

open Database

variable {entry : Entry} {name : String} {calls : Nat}

/-- What a call does to the table of a name, in terms of what was sent. -/
structure Books (entry : Entry) (name : String) (calls : Nat) : Prop where
  drawn : entry.after.HasDrawn name (calls + entry.requested name)
  receipts : (entry.after.rows name).map StoredMessage.receipt =
    ((entry.before.rows name).map StoredMessage.receipt).filter (fun receipt => !entry.removes name receipt.address) ++
      (entry.sent name).map entry.receipt
  minted : Minted entry.before.layout entry.before.bucket calls (calls + entry.requested name)
    ((entry.sent name).map fun post => post.id.localId)

/-- The books of a call that adds no rows to a table. -/
theorem books_of_unsent (other : entry.call.sending? = none ∨ entry.call.table? ≠ some name)
    (drawn : entry.after.HasDrawn name calls)
    (receipts : (entry.after.rows name).map StoredMessage.receipt =
      ((entry.before.rows name).map StoredMessage.receipt).filter fun receipt =>
        !entry.removes name receipt.address) : Books entry name calls := by
  have unasked : entry.requested name = 0 := by
    unfold requested
    cases made : entry.call with
    | send | sendBatched =>
      rw [made] at other
      exact if_neg fun same => other.elim nofun fun apart => apart (congrArg some same)
    | receive | delete | mutate | sweep | sweepBatch | advanceClock | elapse => rfl
  refine ⟨?_, ?_, ?_⟩
  · rw [unasked]
    exact drawn
  · rw [receipts, sent_nil other]
    exact (List.append_nil _).symm
  · rw [sent_nil other]
    exact .nil _ _ _ _

theorem kept_of_not_removes (keeps : ∀ id, entry.removes name id = false) (receipts : List Receipt) :
    receipts.filter (fun receipt => !entry.removes name receipt.address) = receipts :=
  List.filter_eq_self.mpr fun receipt _ => by rw [keeps]; rfl

/-- Rows that are swept and then changed in place leave the receipts of those that are still there. -/
theorem receipts_of_sweeps {middle after : Database} (ascending : Table.Ascending (entry.before.rows name))
    (sweeps : Sweeps name entry.before middle)
    (same : (after.rows name).map StoredMessage.receipt = (middle.rows name).map StoredMessage.receipt) :
    (after.rows name).map StoredMessage.receipt =
      ((entry.before.rows name).map StoredMessage.receipt).filter fun receipt =>
        receipt.address.localId ∈ (after.rows name).map StoredMessage.id := by
  have ids : (after.rows name).map StoredMessage.id =
      ((after.rows name).map StoredMessage.receipt).map fun receipt => receipt.address.localId := by
    rw [List.map_map]
    rfl
  have distinct : (((entry.before.rows name).map StoredMessage.receipt).map fun receipt =>
      receipt.address.localId).Nodup := by
    rw [List.map_map]
    exact ascending.nodup
  rw [ids, same]
  exact (sublist_eq_filter _ (sweeps.sublist.map _) distinct).symm

/-- What is known of the database before a call, as far as a table goes. -/
structure Ready (database : Database) (name : String) (calls : Nat) : Prop where
  small : database.layout.Small
  drawn : database.HasDrawn name calls
  ascending : Table.Ascending (database.rows name)
  below : ∀ row ∈ database.rows name, row.id ≤ database.layout.nth database.bucket calls

/-- The rows of a batch come behind those of the table, in the order of their messages. -/
theorem Ready.appends {queue : Queue} {shard : Int} {messages : List NewMessage} {options : SendOptions}
    {before after : Database} (ready : Ready before queue.table calls)
    (few : calls + Run.sendDrawn queue shard messages options before < 2 ^ 64)
    {outcome : Except Overflow (Except Error SendResult)}
    (ran : (Run.sendBatched queue shard messages options).run.run before = (outcome, after)) :
    ∃ now, (before.now = .ok now ∨ Run.posted queue messages outcome = []) ∧
      after.rows queue.table =
        before.rows queue.table ++ (Run.posted queue messages outcome).map (fun post => post.stored now) ∧
      Table.Ascending (after.rows queue.table) := by
  obtain ⟨⟨now, clock, rows⟩, _⟩ := Run.sendBatched_extends ran
  obtain ⟨_, minted⟩ := Run.sendBatched_minted ready.small ready.drawn few ran
  have order : Table.Ascending
      (before.rows queue.table ++ (Run.posted queue messages outcome).map fun post => post.stored now) := by
    refine List.pairwise_append.mpr ⟨ready.ascending, ?_, fun row here other there => ?_⟩
    · exact List.pairwise_map.mpr (List.pairwise_map.mp minted.ascending)
    · obtain ⟨post, member, rfl⟩ := List.mem_map.mp there
      exact Int.lt_of_le_of_lt (ready.below row here) (minted.above _ (List.mem_map_of_mem member))
  rw [rows, Table.extend_eq_append order]
  exact ⟨now, clock, rfl, order⟩

/-- The messages of a send come behind those of the table. -/
theorem books_of_sending {queue : Queue} {shard : Int} {messages : List NewMessage} {options : SendOptions}
    (made : entry.call.sending? = some (queue, shard, messages, options)) (ready : Ready entry.before queue.table calls)
    (few : calls + entry.requested queue.table < 2 ^ 64) : Books entry queue.table calls := by
  have asked : entry.requested queue.table = Run.sendDrawn queue shard messages options entry.before := by
    unfold requested
    rw [made]
    exact if_pos rfl
  have keeps (id : MessageId) : entry.removes queue.table id = false := by
    unfold removes
    cases call : entry.call with
    | send | sendBatched | mutate | advanceClock | elapse => rfl
    | receive | delete | sweep | sweepBatch =>
      rw [call] at made
      cases made
  obtain ⟨batch, ran, sent⟩ := of_sending made
  obtain ⟨now, clock, rows, _⟩ := ready.appends (asked ▸ few) ran
  obtain ⟨drawn, minted⟩ := Run.sendBatched_minted ready.small ready.drawn (asked ▸ few) ran
  rw [← sent] at clock rows minted
  rw [← asked] at drawn minted
  refine ⟨drawn, ?_, minted⟩
  rw [rows, List.map_append, kept_of_not_removes keeps, List.map_map]
  rcases clock with clock | nothing
  · refine congrArg (_ ++ ·) (List.map_congr_left fun post _ => ?_)
    unfold Entry.receipt Entry.time
    rw [clock]
    rfl
  · rw [nothing]
    rfl

/-- A call that may sweep does so first, and then may change rows in place. -/
theorem sweeps_first (own : entry.call.table? = some name) (may : entry.call.maySweep)
    (ascending : Table.Ascending (entry.before.rows name)) :
    ∃ middle change, Sweeps name entry.before middle ∧ Rewrites name change middle entry.after := by
  cases made : entry.call with
  | receive queue options =>
    rw [made] at own
    cases own
    obtain ⟨outcome, ran, _⟩ := of_receive made
    obtain ⟨middle, change, sweeps, rewrites, _⟩ :=
      Run.receive_run entry.engine entry.drawn queue options ascending ran
    exact ⟨middle, change, sweeps, rewrites⟩
  | sweep queue hint =>
    rw [made] at own
    cases own
    obtain ⟨outcome, ran, _⟩ := of_sweep made
    exact ⟨entry.after, id, (Run.sweep_run entry.engine queue hint ran).1, .refl _ _⟩
  | sweepBatch queue limit =>
    rw [made] at own
    cases own
    obtain ⟨outcome, ran, _⟩ := of_sweepBatch made
    exact ⟨entry.after, id, (Run.deleteDead_run limit ran).1, .refl _ _⟩
  | send | sendBatched | delete | mutate | advanceClock | elapse =>
    rw [made] at may
    cases may

theorem removes_of_maySweep (own : entry.call.table? = some name) (may : entry.call.maySweep) (id : MessageId) :
    entry.removes name id = decide (id.localId ∉ (entry.after.rows name).map StoredMessage.id) := by
  unfold removes
  cases made : entry.call with
  | receive | sweep | sweepBatch =>
    rw [made] at own
    cases own
    simp only [decide_true, Bool.true_and]
  | send | sendBatched | delete | mutate | advanceClock | elapse =>
    rw [made] at may
    cases may

theorem sending_of_maySweep (may : entry.call.maySweep) : entry.call.sending? = none := by
  cases made : entry.call with
  | send | sendBatched =>
    rw [made] at may
    cases may
  | receive | delete | mutate | sweep | sweepBatch | advanceClock | elapse => rfl

theorem books_of_maySweep (own : entry.call.table? = some name) (may : entry.call.maySweep)
    (ready : Ready entry.before name calls) : Books entry name calls := by
  obtain ⟨middle, change, sweeps, rewrites⟩ := sweeps_first own may ready.ascending
  have same : (entry.after.rows name).map StoredMessage.receipt = (middle.rows name).map StoredMessage.receipt := by
    rw [rewrites.rows, List.map_map]
    exact List.map_congr_left rewrites.receipts
  refine books_of_unsent (.inl (sending_of_maySweep may)) (rewrites.drawn (sweeps.drawn ready.drawn)) ?_
  rw [receipts_of_sweeps ready.ascending sweeps same]
  refine List.filter_congr fun receipt _ => ?_
  rw [removes_of_maySweep own may, decide_not, Bool.not_not]

theorem books_delete {queue : Queue} {ids : List MessageId} (made : entry.call = .delete queue ids)
    (ready : Ready entry.before queue.table calls) : Books entry queue.table calls := by
  obtain ⟨removed, _, keeps, rows, _⟩ := Run.delete_run queue ids entry.before
  obtain ⟨outcome, ran, _⟩ := of_delete made
  rw [ran] at keeps rows
  dsimp only at keeps rows
  refine books_of_unsent (.inl (by rw [made]; rfl)) (keeps.drawn ready.drawn) ?_
  rw [rows, List.filter_map]
  refine congrArg _ (List.filter_congr fun row _ => ?_)
  unfold removes
  rw [made]
  simp only [StoredMessage.receipt, Function.comp, decide_true, Bool.true_and, decide_not, Bool.not_eq_eq_eq_not,
    Bool.not_not]
  exact decide_eq_decide.mpr .rfl

theorem books_mutate {queue : Queue} {mutations : List Mutation} {ids : List MessageId}
    (made : entry.call = .mutate queue mutations ids) (ready : Ready entry.before queue.table calls) :
    Books entry queue.table calls := by
  obtain ⟨outcome, ran, _⟩ := of_mutate made
  obtain ⟨change, rewrites, _⟩ := Run.mutate_run queue mutations ids ready.ascending ran
  refine books_of_unsent (.inl (by rw [made]; rfl)) (rewrites.drawn ready.drawn) ?_
  rw [kept_of_not_removes fun id => by unfold removes; rw [made], rewrites.rows, List.map_map]
  exact List.map_congr_left rewrites.receipts

/-- A call about another table leaves the books of this one as they are. -/
theorem books_apart (apart : entry.call.table? ≠ some name) (ready : Ready entry.before name calls) :
    Books entry name calls := by
  have same := entry.same apart
  have keeps (id : MessageId) : entry.removes name id = false := by
    unfold removes
    cases made : entry.call <;> rw [made] at apart <;> simp_all [Call.table?]
  refine books_of_unsent (.inr apart) (same.drawn ready.drawn) ?_
  rw [same.rows, kept_of_not_removes keeps]

theorem books (entry : Entry) (name : String) (ready : Ready entry.before name calls)
    (few : calls + entry.requested name < 2 ^ 64) : Books entry name calls := by
  by_cases own : entry.call.table? = some name
  · cases made : entry.call <;> rw [made] at own <;> cases own
    · exact books_of_sending (by rw [made]; rfl) ready few
    · exact books_of_sending (by rw [made]; rfl) ready few
    · exact books_of_maySweep (by rw [made]; rfl) (by rw [made]; rfl) ready
    · exact books_delete made ready
    · exact books_mutate made ready
    · exact books_of_maySweep (by rw [made]; rfl) (by rw [made]; rfl) ready
    · exact books_of_maySweep (by rw [made]; rfl) (by rw [made]; rfl) ready
  · exact books_apart own ready

theorem delete_counts {queue : Queue} {ids : List MessageId} (made : entry.call = .delete queue ids) :
    entry.outcome = .deleted (.ok ((entry.before.rows queue.table).filter fun row => row.address ∈ ids).length) ∧
      (entry.before.rows queue.table).length =
        ((entry.before.rows queue.table).filter fun row => row.address ∈ ids).length +
          (entry.after.rows queue.table).length := by
  obtain ⟨removed, answer, _, rows, total⟩ := Run.delete_run queue ids entry.before
  obtain ⟨outcome, ran, ended⟩ := of_delete made
  rw [ran] at answer rows
  cases answer
  subst total
  refine ⟨ended, ?_⟩
  have parts := List.length_eq_countP_add_countP (fun row : StoredMessage => decide (row.address ∈ ids))
    (l := entry.before.rows queue.table)
  rw [List.countP_eq_length_filter, List.countP_eq_length_filter] at parts
  simp only [decide_eq_true_eq] at parts
  rw [rows]
  exact parts

/-- A call that reports how many messages it removed has removed that many. -/
theorem counts (own : entry.call.table? = some name) {count : Nat} (reports : entry.count? = some count) :
    (entry.before.rows name).length = count + (entry.after.rows name).length := by
  unfold count? at reports
  cases made : entry.call with
  | delete queue ids =>
    rw [made] at own
    cases own
    obtain ⟨ended, total⟩ := delete_counts made
    rw [ended] at reports
    cases reports
    exact total
  | sweep queue hint =>
    rw [made] at own
    cases own
    obtain ⟨outcome, ran, ended⟩ := of_sweep made
    rw [ended] at reports
    rcases outcome with overflow | failure | result <;> cases reports
    exact (Run.sweep_run entry.engine queue hint ran).2 result rfl
  | sweepBatch queue limit =>
    rw [made] at own
    cases own
    obtain ⟨outcome, ran, ended⟩ := of_sweepBatch made
    rw [ended] at reports
    rcases outcome with overflow | failure | removed <;> cases reports
    exact (Run.deleteDead_run limit ran).2 _ rfl
  | send queue shard messages =>
    obtain ⟨outcome, _, ended⟩ := of_send made
    rw [ended] at reports
    cases outcome <;> cases reports
  | sendBatched queue shard messages options =>
    obtain ⟨outcome, _, ended⟩ := of_sendBatched made
    rw [ended] at reports
    cases outcome <;> cases reports
  | receive queue options =>
    obtain ⟨outcome, _, ended⟩ := of_receive made
    rw [ended] at reports
    cases outcome <;> cases reports
  | mutate queue mutations ids =>
    obtain ⟨outcome, _, ended⟩ := of_mutate made
    rw [ended] at reports
    cases outcome <;> cases reports
  | advanceClock | elapse =>
    rw [made] at own
    cases own

/-- An all-or-nothing send reports one id for each message. -/
theorem send_aligned {queue : Queue} {shard : Int} {messages : List NewMessage} {ids : List MessageId}
    (made : entry.call = .send queue shard messages) (given : entry.outcome = .ids (.ok ids)) :
    messages.length = ids.length := by
  obtain ⟨outcome, ran, ended⟩ := of_send made
  obtain ⟨_, _, whole, _⟩ := Run.send_cases entry.engine entry.drawn ran
  rw [given] at ended
  rcases outcome with overflow | failure | ids <;> cases ended
  exact (whole _ rfl).1

/-- A batched send says of each message whether it got an id. -/
theorem sendBatched_aligned {queue : Queue} {shard : Int} {messages : List NewMessage} {options : SendOptions}
    {result : SendResult} (made : entry.call = .sendBatched queue shard messages options)
    (given : entry.outcome = .sent (.ok result)) : messages.length = result.ids.length := by
  obtain ⟨outcome, ran, ended⟩ := of_sendBatched made
  rw [given] at ended
  rcases outcome with overflow | failure | result <;> cases ended
  exact (Run.sendBatched_extends ran).2 _ rfl

/-- A sweep, also one before a receive, removes nothing but dead messages. -/
theorem dead (own : entry.call.table? = some name) (may : entry.call.maySweep)
    (ascending : Table.Ascending (entry.before.rows name)) {row : StoredMessage}
    (present : row ∈ entry.before.rows name) (gone : entry.removes name row.address) :
    ∃ now, entry.before.now = .ok now ∧ row.remaining ≤ 0 ∧ row.scheduledAt ≤ now := by
  obtain ⟨middle, change, sweeps, rewrites⟩ := sweeps_first own may ascending
  rw [removes_of_maySweep own may] at gone
  have absent : row ∉ middle.rows name := by
    intro there
    refine of_decide_eq_true gone ?_
    rw [rewrites.rows, List.map_map]
    have same : (change row).id = row.id := StoredMessage.receipt_id (rewrites.receipts row there)
    exact List.mem_map.mpr ⟨row, there, same⟩
  obtain ⟨now, clock, swept⟩ := sweeps.dead present absent
  unfold StoredMessage.isSwept at swept
  simp only [Bool.and_eq_true, decide_eq_true_eq] at swept
  exact ⟨now, clock, swept⟩

end Entry

open Database

/-- The table of a queue and its ledger. -/
structure Kept (name : String) (past : List Entry) (database : Database) : Prop
    extends Entry.Ready database name (requested name past) where
  receipts : (database.rows name).map StoredMessage.receipt = ledger name past
  increasing : (reported name past).Pairwise (· < ·)
  bounded : ∀ id ∈ reported name past, id ≤ database.layout.nth database.bucket (requested name past)

theorem Kept.start {database : Database} (opened : database.Opened) (name : String) : Kept name [] database := by
  obtain ⟨small, tables⟩ := opened.start
  obtain ⟨rows, drawn⟩ := tables name
  refine ⟨⟨small, drawn, ?_, ?_⟩, ?_, .nil, nofun⟩
  · rw [rows]
    exact .nil
  · rw [rows]
    exact nofun
  · rw [rows]
    rfl

/-- The next call keeps the books. -/
theorem Kept.call {name : String} {past : List Entry} {entry : Entry} (kept : Kept name past entry.before)
    (few : requested name (entry :: past) < 2 ^ 64) : Kept name (entry :: past) entry.after := by
  have books := entry.books name kept.toReady few
  obtain ⟨layout, bucket⟩ := entry.identity
  have receipts : (entry.after.rows name).map StoredMessage.receipt = ledger name (entry :: past) := by
    rw [books.receipts, kept.receipts]
    rfl
  have ids : (entry.after.rows name).map StoredMessage.id =
      ((entry.before.rows name).filter fun row => !entry.removes name row.address).map StoredMessage.id ++
        (entry.sent name).map fun post => post.id.localId := by
    have mapped := congrArg (List.map fun receipt : Receipt => receipt.address.localId) books.receipts
    rw [List.map_append, List.filter_map, List.map_map, List.map_map, List.map_map] at mapped
    exact mapped
  have later : entry.before.layout.nth entry.before.bucket (requested name past) ≤
      entry.before.layout.nth entry.before.bucket (requested name (entry :: past)) :=
    IdLayout.nth_le (Nat.le_add_right _ _)
  have older {row : StoredMessage} (member : row ∈ (entry.before.rows name).filter fun row =>
      !entry.removes name row.address) := kept.below row (List.mem_filter.mp member).1
  have ascending : ((entry.after.rows name).map StoredMessage.id).Pairwise (· < ·) := by
    rw [ids]
    refine List.pairwise_append.mpr ⟨?_, books.minted.ascending, ?_⟩
    · exact List.pairwise_map.mpr (kept.ascending.filter _)
    · intro first here second there
      obtain ⟨row, member, rfl⟩ := List.mem_map.mp here
      exact Int.lt_of_le_of_lt (older member) (books.minted.above second there)
  have below : ∀ id ∈ (entry.after.rows name).map StoredMessage.id,
      id ≤ entry.before.layout.nth entry.before.bucket (requested name (entry :: past)) := by
    rw [ids]
    intro id member
    rcases List.mem_append.mp member with here | there
    · obtain ⟨row, kept, rfl⟩ := List.mem_map.mp here
      exact Int.le_trans (older kept) later
    · exact books.minted.below id there
  refine ⟨⟨layout ▸ kept.small, books.drawn, List.pairwise_map.mp ascending, ?_⟩, receipts, ?_, ?_⟩
  · rw [layout, bucket]
    exact fun row member => below row.id (List.mem_map_of_mem member)
  · exact List.pairwise_append.mpr ⟨kept.increasing, books.minted.ascending, fun first here second there =>
      Int.lt_of_le_of_lt (kept.bounded first here) (books.minted.above second there)⟩
  · rw [layout, bucket]
    intro id member
    rcases List.mem_append.mp member with here | there
    · exact Int.le_trans (kept.bounded id here) later
    · exact books.minted.below id there

theorem History.kept {start database : Database} {past : List Entry} (opened : start.Opened)
    (history : History start past database) {name : String} (few : requested name past < 2 ^ 64) :
    Kept name past database := by
  induction history with
  | start => exact .start opened name
  | call earlier engine drawn call ih => exact (ih (Nat.lt_of_le_of_lt (Nat.le_add_right _ _) few)).call few

/-- What a call tells its caller about a table is what happened to the table. -/
structure Entry.Truthful (entry : Entry) (name : String) : Prop where
  sentAll : ∀ queue shard messages ids, entry.call = .send queue shard messages → entry.outcome = .ids (.ok ids) →
    messages.length = ids.length
  sentSome : ∀ queue shard messages options result, entry.call = .sendBatched queue shard messages options →
    entry.outcome = .sent (.ok result) → messages.length = result.ids.length
  /-- A deletion always succeeds, and counts the messages that it names once each. -/
  deleted : ∀ queue ids, entry.call = .delete queue ids →
    entry.outcome = .deleted (.ok ((entry.before.rows name).filter fun row => row.address ∈ ids).length)
  counted : ∀ count, entry.count? = some count →
    (entry.before.rows name).length = count + (entry.after.rows name).length
  swept : entry.call.maySweep → ∀ row ∈ entry.before.rows name, entry.removes name row.address →
    ∃ now, entry.before.now = .ok now ∧ row.remaining ≤ 0 ∧ row.scheduledAt ≤ now
  /-- A message that stays keeps its shard, its time of creation, its payload and its metadata. -/
  lasting : ∀ row ∈ entry.before.rows name, ∀ later ∈ entry.after.rows name, later.id = row.id →
    later.receipt = row.receipt

theorem requested_le {name : String} {earlier past : List Entry} (suffix : earlier <:+ past) :
    requested name earlier ≤ requested name past := by
  obtain ⟨newer, rfl⟩ := suffix
  induction newer with
  | nil => exact Nat.le_refl _
  | cons entry newer ih => exact Nat.le_trans ih (Nat.le_add_right _ _)

/-- A row of the table after a call that has the id of a row from before is that row, as far as receipts go. -/
theorem Kept.lasting {name : String} {past : List Entry} {entry : Entry} (kept : Kept name past entry.before)
    (few : requested name (entry :: past) < 2 ^ 64) {row later : StoredMessage} (old : row ∈ entry.before.rows name)
    (new : later ∈ entry.after.rows name) (same : later.id = row.id) : later.receipt = row.receipt := by
  have books := entry.books name kept.toReady few
  have member : later.receipt ∈ (entry.after.rows name).map StoredMessage.receipt := List.mem_map_of_mem new
  rw [books.receipts] at member
  rcases List.mem_append.mp member with here | there
  · obtain ⟨first, present, equal⟩ := List.mem_map.mp (List.mem_filter.mp here).1
    have ids : first.id = row.id := by
      rw [← same]
      exact StoredMessage.receipt_id equal
    rw [← equal, Table.eq_of_id kept.ascending present old ids]
  · obtain ⟨sent, made, equal⟩ := List.mem_map.mp there
    have fresh := books.minted.above _ (List.mem_map_of_mem made)
    have ids : sent.id.localId = later.id := congrArg (fun receipt : Receipt => receipt.address.localId) equal
    rw [ids, same] at fresh
    exact absurd (kept.below row old) (Int.not_le.mpr fresh)

theorem Kept.truthful {name : String} {past : List Entry} {entry : Entry} (kept : Kept name past entry.before)
    (few : requested name (entry :: past) < 2 ^ 64) (own : entry.call.table? = some name) : entry.Truthful name where
  sentAll queue shard messages ids made given := entry.send_aligned made given
  sentSome queue shard messages options result made given := entry.sendBatched_aligned made given
  deleted queue ids made := by
    rw [made] at own
    cases own
    exact (entry.delete_counts made).1
  counted count reports := entry.counts own reports
  swept may row present gone := entry.dead own may kept.ascending present gone
  lasting row old later new same := kept.lasting few old new same

/-- Nothing is lost and nothing is doubled: the table of a queue is what was sent and not removed since, no id is
reported twice, and what the calls say of the table is true. -/
theorem History.lossless {start database : Database} {past : List Entry} (opened : start.Opened)
    (history : History start past database) {name : String} (few : requested name past < 2 ^ 64) :
    (database.rows name).map StoredMessage.receipt = ledger name past ∧ (reported name past).Pairwise (· < ·) ∧
      ∀ entry ∈ past, entry.call.table? = some name → entry.Truthful name := by
  have kept := history.kept opened few
  refine ⟨kept.receipts, kept.increasing, fun entry member own => ?_⟩
  obtain ⟨earlier, suffix, before⟩ := history.earlier member
  have fewer := Nat.lt_of_le_of_lt (requested_le suffix) few
  have kept := before.kept opened (Nat.lt_of_le_of_lt (Nat.le_add_right _ _) fewer)
  exact kept.truthful fewer own

/-- Of three messages one is deleted; another is named with a wrong shard and stays. -/
def deletion : List (SweepEngine × Bool × Call) :=
  let jobs : Queue := .named .jobs
  let note : NewMessage := ⟨.empty, ∅, none, none⟩
  let engine : SweepEngine := ⟨.disabled, ""⟩
  [(engine, false, .sweep jobs 100), (engine, false, .delete jobs [⟨1, 1⟩, ⟨1, 1⟩, ⟨2, 2⟩]),
    (engine, false, .sendBatched jobs 1 [note, note, note] .default)]

theorem deletion_loses_one :
    (((replay .fresh deletion).2.rows "q_jobs").map StoredMessage.receipt).map Receipt.address = [⟨2, 1⟩, ⟨3, 1⟩] ∧
      (reported "q_jobs" (replay .fresh deletion).1).Pairwise (· < ·) := by
  have few : requested "q_jobs" (replay .fresh deletion).1 < 2 ^ 64 := by decide +kernel
  obtain ⟨rows, increasing, _⟩ := (replay_history .fresh deletion).lossless Database.fresh_opened few
  refine ⟨?_, increasing⟩
  rw [rows]
  decide +kernel

end LeaseQueue
