import LeaseQueue.Proofs.Condition.Membership
import LeaseQueue.Proofs.Memory.Convergence
import LeaseQueue.Proofs.Memory.Failures
import LeaseQueue.Proofs.Memory.Selection
import LeaseQueue.Proofs.Sql.Boundaries

/-!
What is read of a queue. Each read looks at the same rows in its own way; they agree with each other, and with what a
receive gets.
-/
namespace LeaseQueue

open Sql (get_ofStates total_ofStates)

theorem MessageState.isReceivable_iff {state : MessageState} :
    state.isReceivable ↔ state = .ready ∨ state = .retry := by
  cases state <;> decide

/-! Counts. -/

namespace MessageCounts

theorem ext_get {first second : MessageCounts} (same : ∀ state, first.get state = second.get state) :
    first = second := by
  obtain ⟨scheduled, ready, inFlight, retry, dead⟩ := second
  obtain rfl := same .scheduled
  obtain rfl := same .ready
  obtain rfl := same .inFlight
  obtain rfl := same .retry
  obtain rfl := same .dead
  rfl

theorem get_merge (first second : MessageCounts) (state : MessageState) :
    (first.merge second).get state = first.get state + second.get state := by
  cases state <;> rfl

end MessageCounts

namespace Table

variable {now : Instant} {rows others : List StoredMessage}

/-- How many of some rows are in each state. -/
def stateCounts (now : Instant) (rows : List StoredMessage) : MessageCounts :=
  .ofStates (rows.map fun row => row.state now)

theorem get_stateCounts (now : Instant) (rows : List StoredMessage) (state : MessageState) :
    (stateCounts now rows).get state = (rows.map fun row => row.state now).count state := get_ofStates _ state

theorem total_stateCounts (now : Instant) (rows : List StoredMessage) :
    (stateCounts now rows).total = rows.length := by
  unfold stateCounts
  rw [total_ofStates, List.length_map]

theorem stateCounts_perm (perm : rows.Perm others) : stateCounts now rows = stateCounts now others := by
  refine MessageCounts.ext_get fun state => ?_
  rw [get_stateCounts, get_stateCounts, (perm.map _).count_eq]

theorem stateCounts_append (now : Instant) (rows others : List StoredMessage) :
    stateCounts now (rows ++ others) = (stateCounts now rows).merge (stateCounts now others) := by
  refine MessageCounts.ext_get fun state => ?_
  rw [MessageCounts.get_merge, get_stateCounts, get_stateCounts, get_stateCounts, List.map_append, List.count_append,
    Int.natCast_add]

/-- Rows that are all in one state count there only. -/
theorem stateCounts_of_all {state : MessageState} (all : ∀ row ∈ rows, row.state now = state) (other : MessageState) :
    (stateCounts now rows).get other = if state = other then (rows.length : Int) else 0 := by
  rw [get_stateCounts, List.map_eq_replicate_iff.mpr all, List.count_replicate]
  cases state <;> cases other <;> rfl

/-- Consumers may lease what is ready or to be retried. -/
theorem receivable_stateCounts (now : Instant) (rows : List StoredMessage) :
    (stateCounts now rows).ready + (stateCounts now rows).retry =
      (rows.filter fun row => (row.state now).isReceivable).length := by
  change (stateCounts now rows).get .ready + (stateCounts now rows).get .retry = _
  rw [get_stateCounts, get_stateCounts, ← List.countP_eq_length_filter]
  induction rows with
  | nil => rfl
  | cons row rest ih =>
    rw [List.map_cons, List.count_cons, List.count_cons, List.countP_cons]
    generalize List.countP _ rest = others at ih ⊢
    cases row.state now <;> simp [MessageState.isReceivable] <;> omega

theorem dead_eq_total_iff : (stateCounts now rows).dead = (stateCounts now rows).total ↔
    ∀ row ∈ rows, row.state now = .dead := by
  change (stateCounts now rows).get .dead = _ ↔ _
  rw [get_stateCounts, total_stateCounts, Int.natCast_inj, ← List.length_map, List.count_eq_length]
  simp only [List.forall_mem_map]
  exact forall₂_congr fun row _ => eq_comm

theorem stateCounts_of_receivable (all : ∀ row ∈ rows, (row.state now).isReceivable) :
    let counts := stateCounts now rows
    counts.scheduled = 0 ∧ counts.inFlight = 0 ∧ counts.dead = 0 ∧ counts.ready + counts.retry = rows.length := by
  intro counts
  have absent (state : MessageState) (never : ¬ state.isReceivable) : counts.get state = 0 := by
    rw [get_stateCounts, List.count_eq_zero.mpr]
    · rfl
    · intro member
      obtain ⟨row, present, rfl⟩ := List.mem_map.mp member
      exact never (all row present)
  refine ⟨absent .scheduled nofun, absent .inFlight nofun, absent .dead nofun, ?_⟩
  rw [receivable_stateCounts, List.filter_eq_self.mpr all]

/-- What a sweep drops was counted as dead. -/
theorem stateCounts_dropSwept {removed : Nat} (enough : removed ≤ (dead now rows).length) :
    stateCounts now rows =
      MessageCounts.merge ⟨0, 0, 0, 0, removed⟩ (stateCounts now (dropSwept now removed rows)) := by
  have gone : stateCounts now ((dead now rows).take removed) = ⟨0, 0, 0, 0, removed⟩ := by
    refine MessageCounts.ext_get fun state => ?_
    have all : ∀ row ∈ (dead now rows).take removed, row.state now = .dead := fun row member =>
      of_decide_eq_true (List.mem_filter.mp (List.mem_of_mem_take member)).2
    rw [stateCounts_of_all all, List.length_take, Nat.min_eq_left enough]
    cases state <;> rfl
  rw [← stateCounts_perm (take_append_dropSwept_perm now removed rows), stateCounts_append, gone]

/-- Messages under leases that do not end at once are in flight. -/
theorem stateCounts_leased {expiry : Instant} (lasts : now < expiry) (chosen : List StoredMessage) :
    stateCounts now (chosen.map fun row => row.lease now expiry) = ⟨0, 0, chosen.length, 0, 0⟩ := by
  refine MessageCounts.ext_get fun state => ?_
  have pending : ∀ row ∈ chosen.map fun row => row.lease now expiry, row.state now = .inFlight := by
    intro row member
    obtain ⟨old, _, rfl⟩ := List.mem_map.mp member
    exact (if_neg (Int.not_le.mpr lasts)).trans (if_pos rfl)
  rw [stateCounts_of_all pending, List.length_map]
  cases state <;> rfl

section

variable {chosen : List StoredMessage} (ascending : Ascending rows) (distinct : (chosen.map StoredMessage.id).Nodup)
include ascending distinct

/-- The rows with the ids of some of them are these. -/
theorem filter_listed_perm (present : ∀ row ∈ chosen, row ∈ rows) :
    (rows.filter fun row => row.id ∈ chosen.map StoredMessage.id).Perm chosen := by
  refine (List.perm_ext_iff_of_nodup (.filter _ (.of_map _ ascending.nodup)) (.of_map _ distinct)).mpr fun row => ?_
  rw [List.mem_filter, decide_eq_true_eq, List.mem_map]
  constructor
  · rintro ⟨here, other, member, same⟩
    rw [← eq_of_id ascending (present other member) here same]
    exact member
  · exact fun member => ⟨present row member, row, member, rfl⟩

/-- Rows that are changed by their ids count apart from those that are not. -/
theorem stateCounts_change (present : ∀ row ∈ chosen, row ∈ rows) (change : StoredMessage → StoredMessage) :
    stateCounts now (rows.map fun row => if row.id ∈ chosen.map StoredMessage.id then change row else row) =
      (stateCounts now (chosen.map change)).merge
        (stateCounts now (rows.filter fun row => !(row.id ∈ chosen.map StoredMessage.id))) := by
  let others := rows.filter fun row => !(row.id ∈ chosen.map StoredMessage.id)
  let step (row : StoredMessage) : StoredMessage :=
    if row.id ∈ chosen.map StoredMessage.id then change row else row
  have parts := List.filter_append_perm (fun row => decide (row.id ∈ chosen.map StoredMessage.id)) rows
  have changed : chosen.map step = chosen.map change :=
    List.map_congr_left fun row member => if_pos (List.mem_map_of_mem member)
  have kept : others.map step = others := by
    refine (List.map_congr_left fun row member => ?_).trans (List.map_id _)
    have unlisted := (List.mem_filter.mp member).2
    rw [Bool.not_eq_true', decide_eq_false_iff_not] at unlisted
    exact if_neg unlisted
  rw [← changed, ← stateCounts_perm ((filter_listed_perm ascending distinct present).map step),
    ← congrArg (stateCounts now) kept, ← stateCounts_append, ← List.map_append, stateCounts_perm (parts.map step)]

/-- Leases that do not end at once bring messages that consumers may lease in flight. -/
theorem stateCounts_lease (offered : ∀ row ∈ chosen, row ∈ rows ∧ (row.state now).isReceivable) {expiry : Instant}
    (lasts : now < expiry) :
    let counts := stateCounts now rows
    let recount := stateCounts now
      (rows.map fun row => if row.id ∈ chosen.map StoredMessage.id then row.lease now expiry else row)
    recount.inFlight = counts.inFlight + chosen.length ∧
      recount.ready + recount.retry = counts.ready + counts.retry - chosen.length ∧
      recount.scheduled = counts.scheduled ∧ recount.dead = counts.dead := by
  intro counts recount
  have present : ∀ row ∈ chosen, row ∈ rows := fun row member => (offered row member).1
  let others := stateCounts now (rows.filter fun row => !(row.id ∈ chosen.map StoredMessage.id))
  have counted : counts = (stateCounts now chosen).merge others := by
    have whole := @stateCounts_change now rows chosen ascending distinct present id
    simp only [id_eq, ite_self, List.map_id_fun', List.map_id] at whole
    exact whole
  have recounted : recount = (stateCounts now (chosen.map fun row => row.lease now expiry)).merge others :=
    stateCounts_change ascending distinct present _
  obtain ⟨noScheduled, noInFlight, noDead, all⟩ := stateCounts_of_receivable fun row member => (offered row member).2
  rw [counted, recounted, stateCounts_leased lasts]
  dsimp only [MessageCounts.merge]
  omega

end

/-- When the messages that consumers may lease were due. -/
def dues (now : Instant) (rows : List StoredMessage) : List Instant :=
  (rows.filter fun row => (row.state now).isReceivable).map StoredMessage.scheduledAt

theorem mem_dues {due : Instant} :
    due ∈ dues now rows ↔ ∃ row ∈ rows, (row.state now).isReceivable ∧ row.scheduledAt = due := by
  unfold dues
  simp only [List.mem_map, List.mem_filter, and_assoc]

theorem dues_eq_nil_iff : dues now rows = [] ↔ ¬ 0 < (stateCounts now rows).ready + (stateCounts now rows).retry := by
  rw [receivable_stateCounts, Int.natCast_pos, Nat.not_lt, Nat.le_zero, List.length_eq_zero_iff]
  exact List.map_eq_nil_iff

end Table

/-- The longest time that a message has been waiting for a consumer. -/
structure LongestWait (now : Instant) (rows : List StoredMessage) (waiting : Int) : Prop where
  waited : ∃ row ∈ rows, (row.state now = .ready ∨ row.state now = .retry) ∧ waiting = now - row.scheduledAt
  longest : ∀ row ∈ rows, row.state now = .ready ∨ row.state now = .retry → now - row.scheduledAt ≤ waiting
  nonnegative : 0 ≤ waiting

/-- The message that is due the longest has been waiting the longest. -/
theorem longestWait_of_min {now : Instant} {rows : List StoredMessage} {earliest : Instant}
    (first : (Table.dues now rows).min? = some earliest) : LongestWait now rows (now.since earliest) := by
  obtain ⟨member, least⟩ := List.min?_eq_some_iff.mp first
  obtain ⟨row, present, receivable, rfl⟩ := Table.mem_dues.mp member
  have due : row.scheduledAt ≤ now := by
    rw [Sql.isReceivable_eq, Bool.and_eq_true, decide_eq_true_eq] at receivable
    exact receivable.1
  have elapsed : ((now.since row.scheduledAt : Nat) : Int) = now - row.scheduledAt :=
    Int.toNat_of_nonneg (Int.sub_nonneg_of_le due)
  rw [elapsed]
  refine ⟨⟨row, present, MessageState.isReceivable_iff.mp receivable, rfl⟩, fun other member offered => ?_,
    Int.sub_nonneg_of_le due⟩
  have later := least other.scheduledAt
    (Table.mem_dues.mpr ⟨other, member, MessageState.isReceivable_iff.mpr offered, rfl⟩)
  exact Int.sub_le_sub_left later now

/-- How the counts of a queue change when messages are received and dead ones removed. -/
structure Delivers (counts recount : MessageCounts) (limit received removed : Nat) : Prop where
  number : (received : Int) = min (limit : Int) (counts.ready + counts.retry)
  inFlight : recount.inFlight = counts.inFlight + received
  waiting : recount.ready + recount.retry = counts.ready + counts.retry - received
  scheduled : recount.scheduled = counts.scheduled
  dead : recount.dead = counts.dead - removed

/-! Rows that a condition is true of, false of and neither. -/

/-- Two tests that never pass together split a list in three. -/
theorem filter_parts_perm {α : Type} {first second : α → Bool} (xs : List α)
    (apart : ∀ x, first x → second x = false) :
    (xs.filter first ++ xs.filter second ++ xs.filter fun x => !first x && !second x).Perm xs := by
  have seconds : (xs.filter fun x => !first x).filter second = xs.filter second := by
    rw [List.filter_filter]
    refine List.filter_congr fun x _ => ?_
    cases here : first x with
    | false => exact Bool.and_true _
    | true => rw [apart x here]; rfl
  have others : (xs.filter fun x => !first x).filter (fun x => !second x) =
      xs.filter fun x => !first x && !second x := by
    rw [List.filter_filter]
    exact List.filter_congr fun x _ => Bool.and_comm _ _
  rw [List.append_assoc, ← seconds, ← others]
  exact ((List.filter_append_perm second _).append_left _).trans (List.filter_append_perm first xs)

namespace Condition

variable {condition : Condition} {row : Meta}

/-- A row matches a condition, its negation or neither of them. -/
theorem matchesRow_not (free : condition.TextFree) (matched : condition.matchesRow row = .ok true) :
    condition.not.matchesRow row ≠ .ok true := by
  have same : condition.not.TextFree := free
  rw [free.matchesRow_iff] at matched
  rw [Ne, same.matchesRow_iff, answer_not, matched]
  exact nofun

theorem TextFree.matchesRow_isOk (free : condition.TextFree) (row : Meta) :
    ∃ matched, condition.matchesRow row = .ok matched := by
  unfold matchesRow
  rw [free.evaluate_eq]
  exact ⟨_, rfl⟩

end Condition

namespace Run

open Database Table

variable {queue : Queue} {before : Database} {now : Instant}

/-! Reads. -/

theorem view_run {α : Type} (absent : α) (look : Instant → Table → Except Error α) (clock : before.now = .ok now) :
    (view queue absent look).run.run before =
      (.ok ((before.table? queue.name).elim (.ok absent) (look now)), before) := by
  unfold view
  rw [run_bind, now_run, clock]
  dsimp only
  rw [run_bind, run_get]
  dsimp only
  cases before.table? queue.name <;> rfl

theorem count_run (filter : Option Condition) (clock : before.now = .ok now) :
    (count queue filter).run.run before =
      (.ok ((passing filter (before.rows queue.table)).map (stateCounts now)), before) := by
  unfold count
  rw [view_run _ _ clock]
  cases found : before.table? queue.name with
  | none =>
    rw [show before.rows queue.table = [] from rows_of_none found]
    rfl
  | some table =>
    rw [show before.rows queue.table = table.rows from rows_of_table found, Option.elim_some, Table.count]
    cases passing filter table.rows <;> rfl

theorem count_all_run (clock : before.now = .ok now) :
    (count queue none).run.run before = (.ok (.ok (stateCounts now (before.rows queue.table))), before) := by
  rw [count_run none clock, Sql.passing_none]
  rfl

theorem rowCount_eq (before : Database) (queue : Queue) :
    before.rowCount queue.name = (before.rows queue.table).length := by
  unfold rowCount
  cases found : before.table? queue.name with
  | none => rw [show before.rows queue.table = [] from rows_of_none found, Option.elim_none, List.length_nil]
  | some table => rw [show before.rows queue.table = table.rows from rows_of_table found, Option.elim_some]

theorem isDeadOrEmpty_run (clock : before.now = .ok now) :
    (isDeadOrEmpty queue).run.run before =
      (.ok (.ok ((before.rows queue.table).all fun row => row.state now == .dead)), before) := by
  unfold isDeadOrEmpty
  rw [view_run _ _ clock]
  cases found : before.table? queue.name with
  | none => rw [show before.rows queue.table = [] from rows_of_none found, Option.elim_none, List.all_nil]
  | some table =>
    rw [show before.rows queue.table = table.rows from rows_of_table found, Option.elim_some]
    rfl

theorem messageAge_run (clock : before.now = .ok now) :
    ∃ age, (messageAge queue).run.run before = (.ok (.ok age), before) ∧
      age.oldestReady = (dues now (before.rows queue.table)).min?.map fun earliest => now.since earliest := by
  unfold messageAge
  rw [view_run _ _ clock]
  cases found : before.table? queue.name with
  | none =>
    rw [show before.rows queue.table = [] from rows_of_none found]
    exact ⟨.none, rfl, rfl⟩
  | some table =>
    rw [show before.rows queue.table = table.rows from rows_of_table found]
    exact ⟨_, rfl, rfl⟩

/-! Receives. -/

/-- The first dead rows of a table are gone, and nothing else but the locks has changed. -/
structure Drops (now : Instant) (name : String) (removed : Nat) (before after : Database) : Prop where
  moves : Moves name before after
  rows : after.rows name = dropSwept now removed (before.rows name)
  enough : removed ≤ (dead now (before.rows name)).length

theorem Drops.refl (now : Instant) (name : String) (database : Database) : Drops now name 0 database database :=
  ⟨.refl _ _, (Table.dropSwept_zero _ _).symm, Nat.zero_le _⟩

/-- Locks that are taken and released around it do not matter. -/
theorem Drops.between {name : String} {removed : Nat} {before taken swept after : Database}
    (first : SameButLocks before taken) (drops : Drops now name removed taken swept)
    (last : SameButLocks swept after) : Drops now name removed before after := by
  refine ⟨((SameButLocks.keeps first name).toMoves.trans drops.moves).trans (SameButLocks.keeps last name).toMoves,
    ?_, ?_⟩
  · rw [SameButLocks.rows last, drops.rows, SameButLocks.rows first]
  · rw [← SameButLocks.rows first]
    exact drops.enough

/-- A sweep cannot fail in memory. -/
theorem engine_sweep_drops (engine : SweepEngine) (session : Nat) (queue : QueueName) {hint : Nat} (asks : 0 < hint)
    (clock : before.now = .ok now) :
    ∃ outcome swept, (engine.sweep (sweepTarget session) queue hint).run.run before = (.ok (.ok outcome), swept) ∧
      Drops now queue.table outcome.removed before swept := by
  rcases engine_sweep_wraps engine session queue hint before with missed | wraps
  · obtain ⟨taken, first, last, answer⟩ := missed
    exact ⟨.lockNotAcquired, _, Prod.ext answer rfl, .between first (.refl now queue.table taken) last⟩
  · obtain ⟨taken, first, last, answer⟩ := wraps
    have positive : 0 < max hint engine.settings.maxRows := Nat.lt_of_lt_of_le asks (Nat.le_max_left ..)
    have later : taken.now = .ok now := (SameButLocks.keeps first "").now.trans clock
    have batches := batches_eq session queue later positive (engine.settings.maxIterations - 1)
    rw [batches] at last answer
    refine ⟨_, _, Prod.ext answer rfl, .between first ⟨taken.onRows_moves queue _, ?_, Nat.min_le_left ..⟩ last⟩
    exact taken.rows_onRows (Table.dropSwept_nil now _)

theorem inline_sweep_drops (engine : SweepEngine) (drawn : Bool) (queue : Queue) {hint : Nat} (asks : 0 < hint)
    (clock : before.now = .ok now) :
    ∃ outcome swept, (inSession fun session =>
        engine.sweepIf drawn (sweepTarget session) queue.name hint).run.run before = (.ok outcome, swept) ∧
      Drops now queue.table (outcome.elim 0 SweepOutcome.removed) before swept := by
  obtain ⟨taken, first, last, answer⟩ :=
    inSession_run (fun session => engine.sweepIf drawn (sweepTarget session) queue.name hint) before
  unfold SweepEngine.sweepIf at last answer ⊢
  cases drawn with
  | false => exact ⟨none, _, Prod.ext answer rfl, .between first (.refl now queue.table taken) last⟩
  | true =>
    have later : taken.now = .ok now := (SameButLocks.keeps first "").now.trans clock
    obtain ⟨outcome, swept, ran, drops⟩ :=
      engine_sweep_drops engine before.locks.openSession.1 queue.name asks later
    rw [if_pos rfl, run_bind, ran] at last answer
    exact ⟨outcome, _, Prod.ext answer rfl, .between first drops last⟩

section

variable {options : ReceiveOptions}

/-- A receive whose leases end inside the calendar gets what it picks, from the rows that its sweep leaves. -/
theorem receive_drops (engine : SweepEngine) (drawn : Bool) (asks : 0 < options.limit) (clock : before.now = .ok now)
    (lasts : now + (queue.visibilityOf options : Int) ≤ Instant.latest)
    (ascending : Ascending (before.rows queue.table)) {chosen : List StoredMessage}
    (choice : picked queue options now before = .ok chosen) :
    let expiry := now + (queue.visibilityOf options : Int)
    ∃ outcome swept after, (inSession fun session =>
        engine.sweepIf drawn (sweepTarget session) queue.name options.limit).run.run before = (.ok outcome, swept) ∧
      Drops now queue.table (outcome.elim 0 SweepOutcome.removed) before swept ∧
      (receive engine drawn queue options).run.run before =
        (.ok (.ok (chosen.map fun row => (row.lease now expiry).leased now)), after) ∧
      Changes queue.table (fun row => if row.id ∈ chosen.map StoredMessage.id then row.lease now expiry else row)
        swept after := by
  intro expiry
  obtain ⟨spanned, ends⟩ := span_of_lasts clock lasts
  obtain ⟨outcome, swept, done, drops⟩ := inline_sweep_drops engine drawn queue asks clock
  have order : Ascending (swept.rows queue.table) := by
    rw [drops.rows]
    exact ascending.sublist (dropSwept_sublist now _ _)
  obtain ⟨after, ran, changes⟩ := @leaseNow_leasing queue options swept now (queue.visibilityOf options)
    (drops.moves.now.trans clock) order
  have sequence : IdSequence := ⟨.default, 0, 0⟩
  have again : picked queue options now swept = .ok chosen := by
    rw [picked_eq sequence, drops.rows, choose_dropSwept sequence sequence, ← picked_eq sequence, choice]
  rw [again, leasing_lasts ends] at ran changes
  refine ⟨outcome, swept, after, done, drops, ?_, changes⟩
  unfold receive
  rw [if_neg (Nat.ne_of_gt asks), spanned]
  dsimp only
  rw [run_bind, done]
  exact ran

/-- Without a filter and a choice of shards a receive picks as many of the messages that it may lease as it asks for. -/
theorem picked_unfiltered (ascending : Ascending (before.rows queue.table)) (unfiltered : options.filter = none)
    (unsharded : options.shards = none) :
    ∃ chosen, picked queue options now before = .ok chosen ∧ (chosen.map StoredMessage.id).Nodup ∧
      (∀ row ∈ chosen, row ∈ before.rows queue.table ∧ (row.state now).isReceivable) ∧
      chosen.length = min options.limit
        ((before.rows queue.table).filter fun row => (row.state now).isReceivable).length := by
  have sequence : IdSequence := ⟨.default, 0, 0⟩
  have passes (row : StoredMessage) : rowPasses options.filter row.metadata = .ok true := by
    rw [unfiltered]
    rfl
  have choice := @choose_ok ⟨sequence, before.rows queue.table⟩ now options fun row _ _ => ⟨true, passes row⟩
  rw [← picked_eq sequence] at choice
  obtain ⟨distinct, candidates⟩ := picked_spec ascending choice
  refine ⟨_, choice, distinct, fun row member => ?_, ?_⟩
  · obtain ⟨present, candidate⟩ := candidates row member
    exact ⟨present, ((Bool.and_eq_true _ _).mp candidate).1⟩
  · rw [List.length_take, (sortBy_perm _ _).length_eq]
    refine congrArg (fun eligible => min options.limit (List.length eligible)) (List.filter_congr fun row _ => ?_)
    rw [Bool.eq_iff_iff, decide_eq_true_eq, MessageState.isReceivable_iff]
    exact ⟨fun eligible => eligible.1.1, fun offered => ⟨⟨offered, unsharded ▸ nofun⟩, passes row⟩⟩

/-- What a receive gets is in flight afterwards and no longer to be leased; of the dead, those are gone that its sweep
has removed. -/
theorem receive_counts (engine : SweepEngine) (drawn : Bool) (asks : 1 ≤ options.limit) (clock : before.now = .ok now)
    (unfiltered : options.filter = none) (unsharded : options.shards = none) (visible : 0 < queue.visibilityOf options)
    (lasts : now + (queue.visibilityOf options : Int) ≤ Instant.latest)
    (ascending : Ascending (before.rows queue.table)) :
    let counts := stateCounts now (before.rows queue.table)
    ∃ outcome swept messages after recount, (inSession fun session =>
        engine.sweepIf drawn (sweepTarget session) queue.name options.limit).run.run before = (.ok outcome, swept) ∧
      (receive engine drawn queue options).run.run before = (.ok (.ok messages), after) ∧
      after.now = .ok now ∧ (count queue none).run.run after = (.ok (.ok recount), after) ∧
      Delivers counts recount options.limit messages.length (outcome.elim 0 SweepOutcome.removed) := by
  intro counts
  obtain ⟨chosen, choice, distinct, offered, number⟩ := @picked_unfiltered queue before now options ascending unfiltered
    unsharded
  obtain ⟨outcome, swept, after, done, drops, ran, changes⟩ :=
    receive_drops engine drawn asks clock lasts ascending choice
  have later : after.now = .ok now := (drops.moves.trans changes.toMoves).now.trans clock
  have order : Ascending (swept.rows queue.table) := by
    rw [drops.rows]
    exact ascending.sublist (dropSwept_sublist now _ _)
  -- The sweep spares what is to be leased.
  have spared : ∀ row ∈ chosen, row ∈ swept.rows queue.table ∧ (row.state now).isReceivable := by
    intro row member
    obtain ⟨present, receivable⟩ := offered row member
    refine ⟨?_, receivable⟩
    rw [drops.rows]
    refine Table.mem_dropSwept present (Bool.eq_false_iff.mpr fun dead => ?_)
    rw [StoredMessage.isSwept_iff.mp dead] at receivable
    cases receivable
  obtain ⟨inFlight, waiting, scheduled, dead⟩ := stateCounts_lease order distinct spared
    (Int.lt_add_of_pos_right now (Int.natCast_pos.mpr visible))
  rw [← changes.rows] at inFlight waiting scheduled dead
  have dropped : counts = _ := stateCounts_dropSwept drops.enough
  rw [← drops.rows] at dropped
  refine ⟨outcome, swept, _, after, _, done, ran, later, count_all_run later, ?_⟩
  have most : (chosen.length : Int) = min (options.limit : Int) (counts.ready + counts.retry) := by
    rw [receivable_stateCounts]
    omega
  rw [List.length_map]
  constructor
  case number => exact most
  all_goals
    rw [dropped]
    dsimp only [MessageCounts.merge]
    omega

end

/-- Rows that match a filter, that match its negation and that match neither make up all rows. -/
theorem count_parts {filter : Condition} (free : filter.TextFree) (clock : before.now = .ok now) :
    let rows := before.rows queue.table
    ∃ matching failing, (count queue (some filter)).run.run before = (.ok (.ok matching), before) ∧
      (count queue (some filter.not)).run.run before = (.ok (.ok failing), before) ∧
      stateCounts now rows = (matching.merge failing).merge (stateCounts now (rows.filter fun row =>
        !(filter.matchesRow row.metadata = .ok true) && !(filter.not.matchesRow row.metadata = .ok true))) := by
  intro rows
  have same : filter.not.TextFree := free
  have counted {condition : Condition} (free : condition.TextFree) :
      (count queue (some condition)).run.run before = (.ok (.ok (stateCounts now
        (rows.filter fun row => condition.matchesRow row.metadata = .ok true))), before) := by
    rw [count_run _ clock, @passing_ok (some condition) rows fun row _ => free.matchesRow_isOk row.metadata]
    rfl
  refine ⟨_, _, counted free, counted same, ?_⟩
  rw [← stateCounts_append, ← stateCounts_append]
  refine (stateCounts_perm (filter_parts_perm rows fun row matched => decide_eq_false ?_)).symm
  exact Condition.matchesRow_not free (of_decide_eq_true matched)

/-- What the reads of a queue answer. They leave it as it is. -/
structure Reads (queue : Queue) (database : Database) (counts : MessageCounts) (empty spent : Bool) (age : MessageAge) :
    Prop where
  counts : (count queue none).run.run database = (.ok (.ok counts), database)
  empty : (isEmpty queue).run.run database = (.ok (.ok empty), database)
  spent : (isDeadOrEmpty queue).run.run database = (.ok (.ok spent), database)
  age : (messageAge queue).run.run database = (.ok (.ok age), database)

/-- What the reads of a queue say agrees with its rows and with each other. -/
structure Coherent (queue : Queue) (now : Instant) (database : Database) (counts : MessageCounts) (empty spent : Bool)
    (age : MessageAge) : Prop where
  noRows : empty = true ↔ database.rowCount queue.name = 0
  nothing : empty = true ↔ counts.total = 0
  spent : spent = true ↔ counts.dead = counts.total
  waits : age.oldestReady.isSome ↔ 0 < counts.ready + counts.retry
  longest : ∀ waiting, age.oldestReady = some waiting → LongestWait now (database.rows queue.table) waiting

theorem reads_coherent (queue : Queue) (clock : before.now = .ok now) :
    let counts := stateCounts now (before.rows queue.table)
    ∃ empty spent age, Reads queue before counts empty spent age ∧
      Coherent queue now before counts empty spent age := by
  intro counts
  obtain ⟨age, aged, oldest⟩ := @messageAge_run queue before now clock
  refine ⟨_, _, age, ⟨count_all_run clock, rfl, isDeadOrEmpty_run clock, aged⟩, ?_, ?_, ?_, ?_, ?_⟩
  · exact beq_iff_eq
  · rw [beq_iff_eq, rowCount_eq, total_stateCounts, Int.natCast_eq_zero]
  · rw [dead_eq_total_iff, List.all_eq_true]
    exact forall₂_congr fun row _ => beq_iff_eq
  · rw [oldest, Option.isSome_map, List.isSome_min?_iff, Ne, dues_eq_nil_iff, not_not]
  · intro waiting found
    rw [oldest] at found
    obtain ⟨earliest, first, rfl⟩ := Option.map_eq_some_iff.mp found
    exact longestWait_of_min first

end Run

/-- What is read of a queue agrees: its counts, its age and whether it is empty or has only dead messages. A receive
gets as many messages as are ready or to be retried, up to its limit, and moves as many in flight. A filter, its
negation and the rest of the rows count as all rows do. -/
theorem History.inspection_agrees {start database : Database} {past : List Entry}
    (history : History start past database) (opened : start.Opened) {now : Instant} (clock : database.now = .ok now)
    (queue : Queue) :
    ∃ counts empty spent age, Run.Reads queue database counts empty spent age ∧
      Run.Coherent queue now database counts empty spent age ∧
      (∀ (engine : SweepEngine) (drawn : Bool) (options : ReceiveOptions), 1 ≤ options.limit →
        options.filter = none → options.shards = none → 0 < queue.visibilityOf options →
        now + (queue.visibilityOf options : Int) ≤ Instant.latest →
        ∃ outcome swept messages after recount, (Run.inSession fun session =>
            engine.sweepIf drawn (Run.sweepTarget session) queue.name options.limit).run.run database =
              (.ok outcome, swept) ∧
          (Run.receive engine drawn queue options).run.run database = (.ok (.ok messages), after) ∧
          after.now = .ok now ∧ (Run.count queue none).run.run after = (.ok (.ok recount), after) ∧
          Delivers counts recount options.limit messages.length (outcome.elim 0 SweepOutcome.removed)) ∧
      ∀ filter : Condition, filter.TextFree → ∃ matching failing,
        (Run.count queue (some filter)).run.run database = (.ok (.ok matching), database) ∧
        (Run.count queue (some filter.not)).run.run database = (.ok (.ok failing), database) ∧
        counts = (matching.merge failing).merge (Table.stateCounts now ((database.rows queue.table).filter fun row =>
          !(filter.matchesRow row.metadata = .ok true) && !(filter.not.matchesRow row.metadata = .ok true))) := by
  obtain ⟨empty, spent, age, reads, coherent⟩ := Run.reads_coherent queue clock
  refine ⟨_, empty, spent, age, reads, coherent, ?_, fun filter free => Run.count_parts free clock⟩
  intro engine drawn options asks unfiltered unsharded visible lasts
  exact Run.receive_counts engine drawn asks clock unfiltered unsharded visible lasts (history.ordered opened _)

/-- Sends a message that can be leased, one that is delayed and one that runs out of attempts. -/
def mixedJobs : List (SweepEngine × Bool × Call) :=
  [(⟨.disabled, ""⟩, false, .mutate (.named .jobs) [.setAttempts 0] [⟨3, 1⟩]),
    (⟨.disabled, ""⟩, false, .send (.named .jobs) 1
      [⟨.empty, ∅, none, none⟩, ⟨.empty, ∅, some nanosPerSecond, none⟩, ⟨.empty, ∅, none, none⟩])]

/-- A receive that asks for two messages gets the only one there is. -/
theorem mixed_jobs_inspected :
    let database := (replay .fresh mixedJobs).2
    let received := (Run.receive ⟨.default, ""⟩ true (.named .jobs) ⟨2, none, none, [], none⟩).run.run database
    ((Run.count (.named .jobs) none).run.run database).1 = .ok (.ok ⟨1, 1, 0, 0, 1⟩) ∧
      ∃ messages recount, received.1 = .ok (.ok messages) ∧ messages.length = 1 ∧
        ((Run.count (.named .jobs) none).run.run received.2).1 = .ok (.ok recount) ∧
        recount.inFlight = 1 ∧ recount.ready + recount.retry = 0 ∧ recount.scheduled = 1 := by
  intro database received
  have clock : database.now = .ok 0 := by decide +kernel
  have counted : ((Run.count (.named .jobs) none).run.run database).1 = .ok (.ok ⟨1, 1, 0, 0, 1⟩) := by decide +kernel
  obtain ⟨counts, _, _, _, reads, _, receives, _⟩ :=
    (replay_history .fresh mixedJobs).inspection_agrees Database.fresh_opened clock (.named .jobs)
  have known := counted
  rw [reads.counts] at known
  obtain rfl := Except.ok.inj (Except.ok.inj known)
  obtain ⟨_, _, messages, after, recount, _, ran, _, recounted, delivers⟩ :=
    receives ⟨.default, ""⟩ true ⟨2, none, none, [], none⟩ (by decide) rfl rfl (by decide +kernel) (by decide +kernel)
  have one : (messages.length : Int) = 1 := delivers.number
  have left : received = (.ok (.ok messages), after) := ran
  rw [left]
  refine ⟨counted, messages, recount, rfl, Int.ofNat_inj.mp one, congrArg Prod.fst recounted, ?_, ?_, ?_⟩
  · rw [delivers.inFlight, one]
    rfl
  · rw [delivers.waiting, one]
    rfl
  · exact delivers.scheduled

end LeaseQueue
