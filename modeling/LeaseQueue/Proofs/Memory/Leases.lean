import LeaseQueue.Proofs.Memory.Ledger

/-!
Leases of a message. Between its sending and its removal a message is leased no more often than it has attempts, and
never before the lease before that has run out, whoever leases and wherever the clock goes.
-/
namespace LeaseQueue

namespace Entry

/-- The message that the call gives a local id to; the last one if it gives the id out more than once. -/
def post? (entry : Entry) (name : String) (localId : Int) : Option Post :=
  (entry.sent name).reverse.find? fun post => post.id.localId = localId

/-- What the call leases of a table under a local id. -/
def delivered (entry : Entry) (name : String) (localId : Int) : List LeasedMessage :=
  match entry.call, entry.outcome with
  | .receive queue _, .leased (.ok messages) =>
    if queue.table = name then messages.filter fun message => message.id.localId = localId else []
  | _, _ => []

/-- Whether the call reports that it mutated a message with a local id. -/
def mutates (entry : Entry) (name : String) (localId : Int) : Bool :=
  match entry.call, entry.outcome with
  | .mutate queue _ _, .mutated (.ok outcomes) =>
    queue.table = name && outcomes.any fun
      | .mutated id _ _ => id.localId = localId
      | .notFound _ => false
  | _, _ => false

end Entry

/-- The message that a local id stands for, the last one that was sent with it. -/
def post? (name : String) (localId : Int) : List Entry → Option Post
  | [] => none
  | entry :: past => (entry.post? name localId).or (post? name localId past)

/-- The leases of the message that a local id stands for, in their order. -/
def deliveries (name : String) (localId : Int) : List Entry → List LeasedMessage
  | [] => []
  | entry :: past =>
    match entry.post? name localId with
    | some _ => []
    | none => deliveries name localId past ++ entry.delivered name localId

/-- Whether the message that a local id stands for was mutated. -/
def mutated (name : String) (localId : Int) : List Entry → Bool
  | [] => false
  | entry :: past =>
    match entry.post? name localId with
    | some _ => false
    | none => mutated name localId past || entry.mutates name localId

/-- Leases of a message that use up its attempts one after the other. -/
structure InTurn (post : Post) (leases : List LeasedMessage) : Prop where
  content : ∀ lease ∈ leases, lease.id = post.id ∧ lease.payload = post.message.payload ∧
    lease.metadata = post.message.metadata
  few : leases.length ≤ post.attempts.toNat
  remaining : ∀ k (h : k < leases.length), leases[k].remaining = post.attempts - (k + 1)
  /-- No lease begins before all earlier ones have run out. -/
  apart : leases.Pairwise fun earlier later => earlier.scheduledAt ≤ later.processingAt

/-- The row of a message as its leases have left it. -/
structure LeftBy (post : Post) (leases : List LeasedMessage) (row : StoredMessage) : Prop where
  content : row.address = post.id ∧ row.payload = post.message.payload ∧ row.metadata = post.message.metadata
  remaining : row.remaining = post.attempts - leases.length
  expired : ∀ lease ∈ leases, lease.scheduledAt ≤ row.scheduledAt

theorem InTurn.nil (post : Post) : InTurn post [] := ⟨nofun, Nat.zero_le _, nofun, .nil⟩

theorem LeftBy.stored (post : Post) (now : Instant) : LeftBy post [] (post.stored now) :=
  ⟨⟨rfl, rfl, rfl⟩, (Int.sub_zero _).symm, nofun⟩

/-- The next lease of a row that is due and has attempts. -/
theorem InTurn.lease {post : Post} {leases : List LeasedMessage} {row : StoredMessage} {now expiry : Instant}
    (turns : InTurn post leases) (left : LeftBy post leases row) (due : row.scheduledAt ≤ now)
    (attempts : 0 < row.remaining) : InTurn post (leases ++ [(row.lease now expiry).leased now]) := by
  have count := left.remaining
  refine ⟨fun lease member => ?_, ?_, fun k h => ?_, ?_⟩
  · rcases List.mem_append.mp member with earlier | only
    · exact turns.content lease earlier
    · obtain rfl := List.mem_singleton.mp only
      exact left.content
  · rw [List.length_append, List.length_singleton]
    omega
  · rw [List.getElem_append]
    split
    · exact turns.remaining k _
    · rw [List.length_append, List.length_singleton] at h
      rw [List.getElem_singleton]
      have last : k = leases.length := by omega
      subst last
      change row.remaining - 1 = _
      omega
  · refine List.pairwise_append.mpr ⟨turns.apart, List.pairwise_singleton _ _, fun earlier member later only => ?_⟩
    obtain rfl := List.mem_singleton.mp only
    exact Int.le_trans (left.expired earlier member) due

theorem LeftBy.lease {post : Post} {leases : List LeasedMessage} {row : StoredMessage} {now expiry : Instant}
    (left : LeftBy post leases row) (due : row.scheduledAt ≤ now) (lasts : now ≤ expiry) :
    LeftBy post (leases ++ [(row.lease now expiry).leased now]) (row.lease now expiry) := by
  have count := left.remaining
  refine ⟨left.content, ?_, fun lease member => ?_⟩
  · rw [List.length_append, List.length_singleton]
    change row.remaining - 1 = _
    omega
  · rcases List.mem_append.mp member with earlier | only
    · exact Int.le_trans (left.expired lease earlier) (Int.le_trans due lasts)
    · obtain rfl := List.mem_singleton.mp only
      exact Int.le_refl expiry

theorem StoredMessage.due_of_candidate {row : StoredMessage} {now : Instant} {shards : Option (List Int)}
    (candidate : row.isCandidate now shards) : row.scheduledAt ≤ now ∧ 0 < row.remaining := by
  unfold StoredMessage.isCandidate StoredMessage.state MessageState.classify at candidate
  rw [Bool.and_eq_true] at candidate
  obtain ⟨receivable, _⟩ := candidate
  split at receivable
  · rename_i due
    split at receivable
    · cases receivable
    · rename_i left
      exact ⟨due, Int.not_le.mp left⟩
  · split at receivable <;> cases receivable

/-- A list without repetitions has one element with the key of an element. -/
theorem filter_key_eq {α β : Type} [DecidableEq β] (key : α → β) {xs : List α} {x : α}
    (distinct : (xs.map key).Nodup) (member : x ∈ xs) : xs.filter (fun other => key other = key x) = [x] := by
  induction xs with
  | nil => cases member
  | cons first rest ih =>
    obtain ⟨fresh, distinct⟩ := List.nodup_cons.mp distinct
    rcases List.mem_cons.mp member with rfl | later
    · rw [List.filter_cons_of_pos (by simp), List.filter_eq_nil_iff.mpr]
      intro other there same
      exact fresh (of_decide_eq_true same ▸ List.mem_map_of_mem there)
    · rw [List.filter_cons_of_neg, ih distinct later]
      intro same
      exact fresh (of_decide_eq_true same ▸ List.mem_map_of_mem later)

namespace Entry

open Database

variable {entry : Entry} {name : String} {localId : Int}

theorem table_of_sending {queue : Queue} {shard : Int} {messages : List NewMessage} {options : SendOptions}
    (made : entry.call.sending? = some (queue, shard, messages, options)) : entry.call.table? = some queue.table := by
  cases call : entry.call <;> rw [call] at made <;> cases made <;> rfl

/-- A call that gives out a local id is a send to the table. -/
theorem sending_of_post {post : Post} (given : entry.post? name localId = some post) :
    ∃ queue shard messages options, entry.call.sending? = some (queue, shard, messages, options) ∧
      queue.table = name := by
  unfold post? at given
  cases made : entry.call.sending? with
  | none =>
    rw [sent_nil (.inl made)] at given
    cases given
  | some sending =>
    obtain ⟨queue, shard, messages, options⟩ := sending
    refine ⟨queue, shard, messages, options, rfl, ?_⟩
    by_contra apart
    have other : entry.call.table? ≠ some name := fun own =>
      apart (Option.some.inj ((table_of_sending made).symm.trans own))
    rw [sent_nil (.inr other)] at given
    cases given

/-- A call that sends nothing takes rows out of its table and changes others in place. -/
theorem thins (own : entry.call.table? = some name) (unsent : entry.call.sending? = none)
    (ordered : Table.Ascending (entry.before.rows name)) :
    ∃ (part : List StoredMessage) (change : StoredMessage → StoredMessage), part.Sublist (entry.before.rows name) ∧
      entry.after.rows name = part.map change ∧ ∀ row ∈ part, (change row).receipt = row.receipt := by
  cases may : entry.call.maySweep with
  | true =>
    obtain ⟨middle, change, sweeps, rewrites⟩ := sweeps_first own may ordered
    exact ⟨middle.rows name, change, sweeps.sublist, rewrites.rows, rewrites.receipts⟩
  | false =>
    cases made : entry.call with
    | delete queue ids =>
      rw [made] at own
      cases own
      obtain ⟨removed, _, _, rows, _⟩ := Run.delete_run queue ids entry.before
      obtain ⟨outcome, ran, _⟩ := of_delete made
      rw [ran] at rows
      exact ⟨_, id, List.filter_sublist, rows.trans (List.map_id _).symm, fun _ _ => rfl⟩
    | mutate queue mutations ids =>
      rw [made] at own
      cases own
      obtain ⟨outcome, ran, _⟩ := of_mutate made
      obtain ⟨change, rewrites, _⟩ := Run.mutate_run queue mutations ids ordered ran
      exact ⟨_, change, .refl _, rewrites.rows, rewrites.receipts⟩
    | send | sendBatched =>
      rw [made] at unsent
      cases unsent
    | receive | sweep | sweepBatch =>
      rw [made] at may
      cases may
    | advanceClock | elapse =>
      rw [made] at own
      cases own

/-- A call leaves a table in order, whatever ids it gives out. -/
theorem ascending (entry : Entry) (ordered : Table.Ascending (entry.before.rows name)) :
    Table.Ascending (entry.after.rows name) := by
  by_cases own : entry.call.table? = some name
  · cases sends : entry.call.sending? with
    | some sending =>
      obtain ⟨queue, shard, messages, options⟩ := sending
      obtain rfl := Option.some.inj (own.symm.trans (table_of_sending sends))
      obtain ⟨batch, ran, _⟩ := of_sending sends
      obtain ⟨⟨now, _, rows⟩, _⟩ := Run.sendBatched_extends ran
      rw [rows]
      exact (Table.extend_spec ordered _).1
    | none =>
      obtain ⟨part, change, inside, rows, receipts⟩ := thins own sends ordered
      rw [rows]
      exact Table.Ascending.map (List.Pairwise.sublist inside ordered) receipts
  · rw [(entry.same own).rows]
    exact ordered

/-- A row under a local id is the message that the call sent with it last, or was there before if it sent none. -/
theorem sends {queue : Queue} {shard : Int} {messages : List NewMessage} {options : SendOptions}
    (made : entry.call.sending? = some (queue, shard, messages, options))
    (ordered : Table.Ascending (entry.before.rows queue.table)) {row : StoredMessage}
    (member : row ∈ entry.after.rows queue.table) (here : row.id = localId) :
    (∃ post now, entry.post? queue.table localId = some post ∧ row = post.stored now) ∨
      entry.post? queue.table localId = none ∧ row ∈ entry.before.rows queue.table := by
  obtain ⟨batch, ran, sent⟩ := of_sending made
  obtain ⟨⟨now, _, rows⟩, _⟩ := Run.sendBatched_extends ran
  rw [rows, ← sent] at member
  have found := (Table.extend_spec ordered _).2 row member
  rw [← List.map_reverse, List.find?_map, here] at found
  have same : entry.post? queue.table localId = (entry.sent queue.table).reverse.find?
      ((fun other : StoredMessage => decide (other.id = localId)) ∘ fun post => post.stored now) := rfl
  rw [← same] at found
  rcases found with found | ⟨none, old⟩
  · obtain ⟨post, given, equal⟩ := Option.map_eq_some_iff.mp found
    exact .inl ⟨post, now, given, equal.symm⟩
  · exact .inr ⟨Option.map_eq_none_iff.mp none, old⟩

/-- A call that leases nothing under a local id, and leaves what it stands for as it is unless it says otherwise. -/
structure Quiet (entry : Entry) (name : String) (localId : Int) : Prop where
  kept : entry.mutates name localId = false → ∀ row ∈ entry.after.rows name, row.id = localId →
    row ∈ entry.before.rows name
  undelivered : entry.delivered name localId = []

theorem undelivered_of_apart (apart : entry.call.table? ≠ some name) : entry.delivered name localId = [] := by
  unfold delivered
  split
  · rename_i queue options messages made _
    exact if_neg fun same => apart (by rw [made]; exact congrArg some same)
  · rfl

theorem quiet_of_apart (apart : entry.call.table? ≠ some name) : Quiet entry name localId :=
  ⟨fun _ _ member _ => (entry.same apart).rows ▸ member, undelivered_of_apart apart⟩

theorem quiet_of_sublist (inside : (entry.after.rows name).Sublist (entry.before.rows name))
    (undelivered : entry.delivered name localId = []) : Quiet entry name localId :=
  ⟨fun _ _ member _ => inside.subset member, undelivered⟩

theorem quiet_of_mutate {queue : Queue} {mutations : List Mutation} {ids : List MessageId}
    (made : entry.call = .mutate queue mutations ids) (calm : entry.outcome.isStopped = false)
    (ordered : Table.Ascending (entry.before.rows queue.table)) : Quiet entry queue.table localId := by
  refine ⟨fun untouched row member here => ?_, by unfold delivered; rw [made]⟩
  obtain ⟨outcome, ran, ended⟩ := of_mutate made
  obtain ⟨change, rewrites, refused, others⟩ := Run.mutate_run queue mutations ids ordered ran
  rw [rewrites.rows] at member
  obtain ⟨old, there, rfl⟩ := List.mem_map.mp member
  have same : (change old).id = old.id := StoredMessage.receipt_id (rewrites.receipts old there)
  rcases outcome with overflow | failure | outcomes
  · rw [ended] at calm
    cases calm
  · rw [refused failure rfl]
    exact there
  · rw [others outcomes rfl old there]
    · exact there
    · rintro ⟨scheduledAt, remaining, reported⟩
      unfold mutates at untouched
      rw [made, ended] at untouched
      simp only [Outcome.ofRun, decide_true, Bool.true_and] at untouched
      have apart := List.any_eq_false.mp untouched _ reported
      exact apart (decide_eq_true (same.symm.trans here))

theorem quiet_of_sending {queue : Queue} {shard : Int} {messages : List NewMessage} {options : SendOptions}
    (made : entry.call.sending? = some (queue, shard, messages, options))
    (ordered : Table.Ascending (entry.before.rows queue.table)) (unsent : entry.post? queue.table localId = none) :
    Quiet entry queue.table localId := by
  refine ⟨fun _ row member here => ?_, ?_⟩
  · rcases sends made ordered member here with ⟨post, now, given, _⟩ | ⟨_, old⟩
    · rw [unsent] at given
      cases given
    · exact old
  · unfold delivered
    cases call : entry.call with
    | receive queue options =>
      rw [call] at made
      cases made
    | send | sendBatched | delete | mutate | sweep | sweepBatch | advanceClock | elapse => rfl

/-- All calls but receives and sends of the local id itself are quiet. -/
theorem quiet (calm : entry.outcome.isStopped = false)
    (ordered : Table.Ascending (entry.before.rows name)) (unsent : entry.post? name localId = none)
    (other : ∀ queue options, entry.call = .receive queue options → queue.table ≠ name) : Quiet entry name localId := by
  by_cases own : entry.call.table? = some name
  · cases made : entry.call <;> rw [made] at own <;> cases own
    · exact quiet_of_sending (by rw [made]; rfl) ordered unsent
    · exact quiet_of_sending (by rw [made]; rfl) ordered unsent
    · exact absurd rfl (other _ _ made)
    · rename_i queue ids
      obtain ⟨removed, _, _, rows, _⟩ := Run.delete_run queue ids entry.before
      obtain ⟨outcome, ran, _⟩ := of_delete made
      rw [ran] at rows
      refine quiet_of_sublist ?_ (by unfold delivered; rw [made])
      exact rows ▸ List.filter_sublist
    · exact quiet_of_mutate made calm ordered
    · obtain ⟨outcome, ran, _⟩ := of_sweep made
      exact quiet_of_sublist (Run.sweep_run _ _ _ ran).1.sublist (by unfold delivered; rw [made])
    · obtain ⟨outcome, ran, _⟩ := of_sweepBatch made
      exact quiet_of_sublist (Run.deleteDead_run _ ran).1.sublist (by unfold delivered; rw [made])
  · exact quiet_of_apart own

/-- A receive leases the message that a local id stands for, which then was due and had attempts, or it leaves it. -/
theorem leases {queue : Queue} {options : ReceiveOptions} (made : entry.call = .receive queue options)
    (calm : entry.outcome.isStopped = false) (ordered : Table.Ascending (entry.before.rows queue.table)) :
    Quiet entry queue.table localId ∨
      ∃ now expiry, now ≤ expiry ∧ ∃ row ∈ entry.before.rows queue.table, row.id = localId ∧
        row.scheduledAt ≤ now ∧ 0 < row.remaining ∧
        entry.delivered queue.table localId = [(row.lease now expiry).leased now] ∧
        ∀ left ∈ entry.after.rows queue.table, left.id = localId → left = row.lease now expiry := by
  obtain ⟨outcome, ran, ended⟩ := of_receive made
  obtain ⟨middle, change, sweeps, rewrites, refused, given⟩ :=
    Run.receive_run entry.engine entry.drawn queue options ordered ran
  have found (failed : ∀ messages, entry.outcome ≠ .leased (.ok messages)) :
      entry.delivered queue.table localId = [] := by
    unfold delivered
    split
    · rename_i answer
      exact absurd answer (failed _)
    · rfl
  rcases outcome with overflow | failure | messages
  · rw [ended] at calm
    cases calm
  · refine .inl (quiet_of_sublist ?_ (found (by rw [ended]; exact nofun)))
    rw [rewrites.rows, refused failure rfl, List.map_id]
    exact sweeps.sublist
  · obtain ⟨now, chosen, _, leases⟩ := given messages rfl
    have delivered : entry.delivered queue.table localId =
        (chosen.filter fun row => row.id = localId).map fun row =>
          (row.lease now (now + (queue.visibilityOf options : Int))).leased now := by
      unfold Entry.delivered
      rw [made, ended]
      refine (if_pos rfl).trans ?_
      rw [leases.messages, List.filter_map]
      rfl
    by_cases picked : ∃ row ∈ chosen, row.id = localId
    · obtain ⟨row, member, rfl⟩ := picked
      have present := leases.present row member
      obtain ⟨due, attempts⟩ := StoredMessage.due_of_candidate (leases.candidate row member)
      have lasts : now ≤ now + (queue.visibilityOf options : Int) := Int.le_add_of_nonneg_right (Int.natCast_nonneg _)
      refine .inr ⟨now, _, lasts, row, sweeps.sublist.subset present, rfl, due, attempts, ?_, fun left after here => ?_⟩
      · rw [delivered, filter_key_eq StoredMessage.id leases.distinct member]
        rfl
      · rw [rewrites.rows] at after
        obtain ⟨old, there, rfl⟩ := List.mem_map.mp after
        have same : old.id = row.id := (StoredMessage.receipt_id (rewrites.receipts old there)).symm.trans here
        obtain rfl := Table.eq_of_id (List.Pairwise.sublist sweeps.sublist ordered) there present same
        rw [leases.change old there, if_pos (List.mem_map_of_mem member)]
    · refine .inl ⟨fun _ left after here => ?_, ?_⟩
      · rw [rewrites.rows] at after
        obtain ⟨old, there, rfl⟩ := List.mem_map.mp after
        have same : (change old).id = old.id := StoredMessage.receipt_id (rewrites.receipts old there)
        have other : old.id ∉ chosen.map StoredMessage.id := by
          intro member
          obtain ⟨row, member, equal⟩ := List.mem_map.mp member
          exact picked ⟨row, member, equal.trans (same.symm.trans here)⟩
        rw [leases.change old there, if_neg other]
        exact sweeps.sublist.subset there
      · rw [delivered, List.filter_eq_nil_iff.mpr]
        · rfl
        · intro row member here
          exact picked ⟨row, member, of_decide_eq_true here⟩

end Entry

/-- What is known of the message that a local id stands for, and of its row if it is still there. -/
structure Leased (name : String) (localId : Int) (past : List Entry) (database : Database) : Prop where
  ordered : Table.Ascending (database.rows name)
  accounts : ∀ post, post? name localId past = some post → mutated name localId past = false →
    InTurn post (deliveries name localId past) ∧
      ∀ row ∈ database.rows name, row.id = localId → LeftBy post (deliveries name localId past) row

namespace Leased

variable {name : String} {localId : Int} {past : List Entry} {entry : Entry}

theorem start {database : Database} (opened : database.Opened) (name : String) (localId : Int) :
    Leased name localId [] database := by
  obtain ⟨_, tables⟩ := opened.start
  refine ⟨?_, nofun⟩
  rw [(tables name).1]
  exact .nil

/-- What is known of a message before a call that does not give its local id out again. -/
theorem before (leased : Leased name localId past entry.before) (unsent : entry.post? name localId = none) {post : Post}
    (holder : post? name localId (entry :: past) = some post) (untouched : mutated name localId (entry :: past) = false) :
    entry.mutates name localId = false ∧
      deliveries name localId (entry :: past) = deliveries name localId past ++ entry.delivered name localId ∧
      InTurn post (deliveries name localId past) ∧
      ∀ row ∈ entry.before.rows name, row.id = localId → LeftBy post (deliveries name localId past) row := by
  unfold post? at holder
  unfold mutated at untouched
  rw [unsent, Option.none_or] at holder
  rw [unsent] at untouched
  obtain ⟨before, now⟩ := Bool.or_eq_false_iff.mp untouched
  refine ⟨now, ?_, leased.accounts post holder before⟩
  rw [deliveries, unsent]

theorem quiet (leased : Leased name localId past entry.before) (unsent : entry.post? name localId = none)
    (quiet : entry.Quiet name localId) : Leased name localId (entry :: past) entry.after := by
  refine ⟨entry.ascending leased.ordered, fun post holder untouched => ?_⟩
  obtain ⟨now, leases, turns, rows⟩ := leased.before unsent holder untouched
  rw [leases, quiet.undelivered, List.append_nil]
  exact ⟨turns, fun row member here => rows row (quiet.kept now row member here) here⟩

/-- A message that is sent has not been leased yet. -/
theorem sent (leased : Leased name localId past entry.before) {post : Post}
    (given : entry.post? name localId = some post) : Leased name localId (entry :: past) entry.after := by
  refine ⟨entry.ascending leased.ordered, fun holder same _ => ?_⟩
  unfold post? at same
  rw [given, Option.some_or] at same
  cases same
  rw [deliveries, given]
  refine ⟨.nil _, fun row member here => ?_⟩
  obtain ⟨queue, shard, messages, options, made, rfl⟩ := Entry.sending_of_post given
  rcases Entry.sends made leased.ordered member here with ⟨found, now, found_given, rfl⟩ | ⟨none, _⟩
  · cases given.symm.trans found_given
    exact .stored post now
  · cases given.symm.trans none

/-- A call accounts for its leases. -/
theorem call (leased : Leased name localId past entry.before) (calm : entry.outcome.isStopped = false) :
    Leased name localId (entry :: past) entry.after := by
  cases given : entry.post? name localId with
  | some post => exact leased.sent given
  | none =>
    by_cases receives : ∃ queue options, entry.call = .receive queue options ∧ queue.table = name
    · obtain ⟨queue, options, made, rfl⟩ := receives
      rcases entry.leases made calm leased.ordered with
        quiet | ⟨now, expiry, lasts, row, present, here, due, attempts, delivered, left⟩
      · exact leased.quiet given quiet
      · refine ⟨entry.ascending leased.ordered, fun post holder untouched => ?_⟩
        obtain ⟨_, leases, turns, rows⟩ := leased.before given holder untouched
        have was := rows row present here
        rw [leases, delivered]
        refine ⟨turns.lease was due attempts, fun now member same => ?_⟩
        rw [left now member same]
        exact was.lease due lasts
    · exact leased.quiet given (Entry.quiet calm leased.ordered given fun queue options made own =>
        receives ⟨queue, options, made, own⟩)

end Leased

theorem History.leased {start database : Database} {past : List Entry} (opened : start.Opened)
    (history : History start past database) (calm : ∀ entry ∈ past, entry.outcome.isStopped = false)
    (name : String) (localId : Int) : Leased name localId past database := by
  induction history with
  | start => exact .start opened name localId
  | call earlier engine drawn call ih =>
    exact (ih fun entry member => calm entry (List.mem_cons_of_mem _ member)).call (calm _ List.mem_cons_self)

/-- However often, by whomever and whenever a message is received that was sent and not mutated since: it is leased at
most as often as it has attempts, each lease leaves one attempt less and begins after all earlier ones have run out,
and a sweep removes the message only when its last lease has run out and its attempts are used up. -/
theorem History.leases_in_turn {start database : Database} {past : List Entry} (opened : start.Opened)
    (history : History start past database) (calm : ∀ entry ∈ past, entry.outcome.isStopped = false)
    {name : String} {localId : Int} {post : Post} (sent : post? name localId past = some post)
    (untouched : mutated name localId past = false) :
    let leases := deliveries name localId past
    InTurn post leases ∧ (∀ k (h : k < leases.length), leases[k].remaining = 0 → k + 1 = leases.length) ∧
      ∀ next : Entry, next.before = database → next.call.table? = some name → next.call.maySweep →
        ∀ row ∈ database.rows name, row.id = localId → next.removes name row.address →
          ∃ now, database.now = .ok now ∧ post.attempts ≤ leases.length ∧
            ∀ lease ∈ leases, lease.scheduledAt ≤ now := by
  obtain ⟨ordered, accounts⟩ := history.leased opened calm name localId
  obtain ⟨turns, rows⟩ := accounts post sent untouched
  refine ⟨turns, fun k h spent => ?_, ?_⟩
  · have count := turns.remaining k h
    have few := turns.few
    omega
  · rintro next rfl own may row member here gone
    obtain ⟨now, clock, spent, due⟩ := next.dead own may ordered member gone
    have left := rows row member here
    have count := left.remaining
    exact ⟨now, clock, by omega, fun lease given => Int.le_trans (left.expired lease given) due⟩

/-- A message with two attempts is leased, again when the lease has run out, and swept in the end. -/
def retries : List (SweepEngine × Bool × Call) :=
  let jobs : Queue := ⟨.jobs, ⟨2, 0, 10⟩, []⟩
  let all : ReceiveOptions := ⟨5, none, none, [], none⟩
  [.receive jobs all, .advanceClock 10, .receive jobs all, .advanceClock 9, .receive jobs all,
    .send jobs 1 [⟨.empty, ∅, none, none⟩]].map fun call => (⟨.disabled, ""⟩, false, call)

theorem retries_in_turn :
    let leases := deliveries "q_jobs" 1 (replay .fresh retries).1
    leases.map LeasedMessage.remaining = [1, 0] ∧
      leases.Pairwise fun earlier later => earlier.scheduledAt ≤ later.processingAt := by
  have calm : ∀ entry ∈ (replay .fresh retries).1, entry.outcome.isStopped = false := by decide +kernel
  have sent : (post? "q_jobs" 1 (replay .fresh retries).1).isSome := by decide +kernel
  have untouched : mutated "q_jobs" 1 (replay .fresh retries).1 = false := by decide +kernel
  obtain ⟨post, holder⟩ := Option.isSome_iff_exists.mp sent
  obtain ⟨turns, _⟩ := (replay_history .fresh retries).leases_in_turn Database.fresh_opened calm holder untouched
  exact ⟨by decide +kernel, turns.apart⟩

end LeaseQueue
