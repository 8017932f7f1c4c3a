import LeaseQueue.Memory.Table
import LeaseQueue.Proofs.Sorting
import Mathlib.Data.List.Induction
import Mathlib.Data.List.Nodup

/-!
What the operations on a table do to its rows, seen from single rows: which ones go, which ones change, and what no
operation ever changes.
-/
namespace LeaseQueue

/-- What stays of a message as it was sent. -/
structure Receipt where
  address : MessageId
  createdAt : Instant
  payload : ByteArray
  metadata : Meta

theorem Instant.add_ok {instant later : Instant} {span : Int} (done : instant.add span = .ok later) :
    later = instant + span := by
  simp only [Instant.add] at done
  split at done
  · cases done; rfl
  · cases done

namespace StoredMessage

def receipt (row : StoredMessage) : Receipt := ⟨row.address, row.createdAt, row.payload, row.metadata⟩

theorem receipt_id {first second : StoredMessage} (same : first.receipt = second.receipt) : first.id = second.id :=
  congrArg (fun receipt : Receipt => receipt.address.localId) same

theorem lease_receipt (row : StoredMessage) (now expiry : Instant) : (row.lease now expiry).receipt = row.receipt := rfl

/-- A mutation writes the schedule and the attempts, and nothing else. -/
theorem mutate_writes {row changed : StoredMessage} {now : Instant} {mutation : Mutation}
    (done : row.mutate now mutation = .ok changed) :
    changed = { row with scheduledAt := changed.scheduledAt, remaining := changed.remaining } := by
  cases mutation with
  | addAttempts delta => cases done; rfl
  | setAttempts attempts => cases done; rfl
  | addSchedule delta =>
    simp only [mutate] at done
    cases due : row.scheduledAt.add delta with
    | error overflow => rw [due] at done; cases done
    | ok instant => rw [due] at done; cases done; rfl
  | setSchedule delay =>
    simp only [mutate] at done
    cases due : now.add delay with
    | error overflow => rw [due] at done; cases done
    | ok instant => rw [due] at done; cases done; rfl

theorem mutateAll_writes (now : Instant) (mutations : List Mutation) (row : StoredMessage) :
    let changed := (row.mutateAll now mutations).2
    changed = { row with scheduledAt := changed.scheduledAt, remaining := changed.remaining } := by
  induction mutations generalizing row with
  | nil => rfl
  | cons mutation rest ih =>
    unfold mutateAll
    cases done : row.mutate now mutation with
    | error overflow => rfl
    | ok changed =>
      refine (ih changed).trans ?_
      rw [mutate_writes done]

theorem mutateAll_receipt (now : Instant) (mutations : List Mutation) (row : StoredMessage) :
    (row.mutateAll now mutations).2.receipt = row.receipt := by
  rw [mutateAll_writes]
  rfl

end StoredMessage

namespace Table

/-- The rows are in the order of their ids, and no two have the same one. -/
def Ascending (rows : List StoredMessage) : Prop := rows.Pairwise fun first second => first.id < second.id

theorem Ascending.nodup {rows : List StoredMessage} (ascending : Ascending rows) :
    (rows.map StoredMessage.id).Nodup :=
  List.pairwise_map.mpr (ascending.imp fun less => Int.ne_of_lt less)

theorem Ascending.map {rows : List StoredMessage} (ascending : Ascending rows) {change : StoredMessage → StoredMessage}
    (same : ∀ row ∈ rows, (change row).receipt = row.receipt) : Ascending (rows.map change) := by
  refine List.pairwise_map.mpr (List.Pairwise.imp_of_mem (fun here there less => ?_) ascending)
  rw [StoredMessage.receipt_id (same _ here), StoredMessage.receipt_id (same _ there)]
  exact less

theorem eq_of_id {rows : List StoredMessage} (ascending : Ascending rows) {first second : StoredMessage}
    (here : first ∈ rows) (there : second ∈ rows) (same : first.id = second.id) : first = second :=
  List.inj_on_of_nodup_map ascending.nodup here there same

/-! Rows that are added. -/

theorem insertRow_above {row : StoredMessage} {rows : List StoredMessage} (above : ∀ other ∈ rows, other.id < row.id) :
    insertRow row rows = row :: rows := by
  cases rows with
  | nil => rfl
  | cons last before => exact if_pos (above last List.mem_cons_self)

/-- A row that is put in its place stands for the one that had its id, and the order stays. -/
theorem insertRow_spec (row : StoredMessage) {rows : List StoredMessage}
    (descending : rows.Pairwise fun first second => second.id < first.id) :
    ((insertRow row rows).Pairwise fun first second => second.id < first.id) ∧
      ∀ other ∈ insertRow row rows, other = row ∨ other ∈ rows ∧ other.id ≠ row.id := by
  induction rows with
  | nil => exact ⟨List.pairwise_singleton _ _, fun other member => .inl (List.mem_singleton.mp member)⟩
  | cons last before ih =>
    obtain ⟨below, order⟩ := List.pairwise_cons.mp descending
    unfold insertRow
    split
    · rename_i above
      have lower : ∀ other ∈ last :: before, other.id < row.id := by
        intro other member
        rcases List.mem_cons.mp member with rfl | earlier
        · exact above
        · exact Int.lt_trans (below other earlier) above
      refine ⟨List.pairwise_cons.mpr ⟨lower, descending⟩, fun other member => ?_⟩
      rcases List.mem_cons.mp member with rfl | old
      · exact .inl rfl
      · exact .inr ⟨old, Int.ne_of_lt (lower other old)⟩
    · split
      · rename_i same
        refine ⟨List.pairwise_cons.mpr ⟨same ▸ below, order⟩, fun other member => ?_⟩
        rcases List.mem_cons.mp member with rfl | old
        · exact .inl rfl
        · exact .inr ⟨List.mem_cons_of_mem _ old, Int.ne_of_lt (same ▸ below other old)⟩
      · rename_i notAbove apart
        obtain ⟨ordered, members⟩ := ih order
        refine ⟨List.pairwise_cons.mpr ⟨fun other member => ?_, ordered⟩, fun other member => ?_⟩
        · rcases members other member with rfl | ⟨old, _⟩
          · omega
          · exact below other old
        · rcases List.mem_cons.mp member with rfl | later
          · exact .inr ⟨List.mem_cons_self, apart⟩
          · exact (members other later).imp_right fun ⟨old, other⟩ => ⟨List.mem_cons_of_mem _ old, other⟩

theorem extend_nil (rows : List StoredMessage) : extend rows [] = rows := List.reverse_reverse rows

theorem extend_concat (rows added : List StoredMessage) (row : StoredMessage) :
    extend rows (added ++ [row]) = (insertRow row (extend rows added).reverse).reverse := by
  unfold extend
  rw [List.foldl_append, List.reverse_reverse]
  rfl

/-- However the ids of added rows fall, the table stays in order, and a row of it is the last one added with its id
or was there before. -/
theorem extend_spec {rows : List StoredMessage} (ascending : Ascending rows) (added : List StoredMessage) :
    Ascending (extend rows added) ∧ ∀ row ∈ extend rows added,
      (added.reverse.find? fun other => other.id = row.id) = some row ∨
        (added.reverse.find? fun other => other.id = row.id) = none ∧ row ∈ rows := by
  induction added using List.reverseRecOn with
  | nil =>
    rw [extend_nil]
    exact ⟨ascending, fun row member => .inr ⟨rfl, member⟩⟩
  | append_singleton added last ih =>
    obtain ⟨order, members⟩ := ih
    obtain ⟨descending, inserted⟩ := insertRow_spec last (List.pairwise_reverse.mpr order)
    rw [extend_concat, List.reverse_append]
    refine ⟨List.pairwise_reverse.mpr descending, fun row member => ?_⟩
    rcases inserted row (List.mem_reverse.mp member) with rfl | ⟨old, apart⟩
    · exact .inl (List.find?_cons_of_pos (by simp))
    · rw [List.reverse_singleton, List.singleton_append, List.find?_cons_of_neg (by simpa using Ne.symm apart)]
      exact members row (List.mem_reverse.mp old)

/-- Rows whose ids lie above all others come behind them. -/
theorem extend_eq_append {rows added : List StoredMessage} (ascending : Ascending (rows ++ added)) :
    extend rows added = rows ++ added := by
  unfold extend
  induction added generalizing rows with
  | nil => simp
  | cons row rest ih =>
    have next : Ascending ((rows ++ [row]) ++ rest) := by rwa [List.append_assoc]
    have above : ∀ other ∈ rows.reverse, other.id < row.id := fun other member =>
      (List.pairwise_append.mp ascending).2.2 other (List.mem_reverse.mp member) row List.mem_cons_self
    rw [List.foldl_cons, insertRow_above above]
    have reversed : row :: rows.reverse = (rows ++ [row]).reverse := by simp
    rw [reversed, ih next, List.append_assoc]
    rfl

/-! Rows that a sweep drops. -/

theorem dropSwept_sublist (now : Instant) (limit : Nat) (rows : List StoredMessage) :
    (dropSwept now limit rows).Sublist rows := by
  induction rows generalizing limit with
  | nil => cases limit <;> exact List.Sublist.refl _
  | cons row rest ih =>
    cases limit with
    | zero => exact List.Sublist.refl _
    | succ limit =>
      unfold dropSwept
      split
      · exact (ih limit).cons row
      · exact (ih (limit + 1)).cons_cons row

theorem mem_dropSwept {now : Instant} {limit : Nat} {rows : List StoredMessage} {row : StoredMessage}
    (member : row ∈ rows) (stays : row.isSwept now = false) : row ∈ dropSwept now limit rows := by
  induction rows generalizing limit with
  | nil => cases member
  | cons first rest ih =>
    cases limit with
    | zero => exact member
    | succ limit =>
      unfold dropSwept
      rcases List.mem_cons.mp member with rfl | later
      · rw [if_neg (by simp [stays])]
        exact List.mem_cons_self
      · split
        · exact ih later
        · exact List.mem_cons_of_mem _ (ih later)

theorem dropSwept_zero (now : Instant) (rows : List StoredMessage) : dropSwept now 0 rows = rows := by
  cases rows <;> rfl

/-- Two batches drop what one of their common size does. -/
theorem dropSwept_dropSwept (now : Instant) (first second : Nat) (rows : List StoredMessage) :
    dropSwept now second (dropSwept now first rows) = dropSwept now (first + second) rows := by
  induction rows generalizing first with
  | nil => cases first <;> cases second <;> rfl
  | cons row rest ih =>
    cases first with
    | zero => rw [dropSwept_zero, Nat.zero_add]
    | succ first =>
      rw [Nat.succ_add]
      cases dead : row.isSwept now with
      | true => simp only [dropSwept, dead, if_true, ih]
      | false =>
        simp only [dropSwept, dead, Bool.false_eq_true, if_false]
        cases second with
        | zero => simp only [dropSwept_zero, Nat.add_zero]
        | succ second =>
          have later := ih (first + 1)
          rw [Nat.succ_add] at later
          simp only [dropSwept, dead, Bool.false_eq_true, if_false, later]

/-! Rows that are replaced. -/

/-- Replacing rows of different ids changes each where it stands. -/
theorem rows_foldl_replace (table : Table) {changed : List StoredMessage}
    (distinct : (changed.map StoredMessage.id).Nodup) :
    (changed.foldl replace table).rows =
      table.rows.map fun row => (changed.find? fun other => row.id = other.id).getD row := by
  induction changed generalizing table with
  | nil => simp
  | cons first rest ih =>
    obtain ⟨fresh, distinct⟩ := List.nodup_cons.mp distinct
    rw [List.foldl_cons, ih _ distinct]
    simp only [replace, List.map_map]
    refine List.map_congr_left fun row _ => ?_
    by_cases same : row.id = first.id
    · have absent : (rest.find? fun other => first.id = other.id) = none := by
        refine List.find?_eq_none.mpr fun other member equal => fresh ?_
        rw [of_decide_eq_true equal]
        exact List.mem_map_of_mem member
      simp [same, absent]
    · simp [same]

theorem sequence_foldl_replace (table : Table) (changed : List StoredMessage) :
    (changed.foldl replace table).sequence = table.sequence := by
  induction changed generalizing table with
  | nil => rfl
  | cons first rest ih => exact ih _

/-! Rows that are leased. -/

theorem passing_sublist {filter : Option Condition} {rows passed : List StoredMessage}
    (done : passing filter rows = .ok passed) : passed.Sublist rows := by
  induction rows generalizing passed with
  | nil => cases done; exact .slnil
  | cons row rest ih =>
    unfold passing at done
    cases passes : rowPasses filter row.metadata with
    | error failure => rw [passes] at done; cases done
    | ok answer =>
      cases others : passing filter rest with
      | error failure => rw [passes, others] at done; cases done
      | ok found =>
        rw [passes, others] at done
        cases answer with
        | true => cases done; exact (ih others).cons_cons row
        | false => cases done; exact (ih others).cons row

/-- A receive chooses different rows that a consumer may lease. -/
theorem choose_spec {table : Table} {now : Instant} {options : ReceiveOptions} {chosen : List StoredMessage}
    (done : table.choose now options = .ok chosen) (ascending : Ascending table.rows) :
    (chosen.map StoredMessage.id).Nodup ∧
      ∀ row ∈ chosen, row ∈ table.rows ∧ row.isCandidate now options.shards := by
  unfold choose at done
  cases passed : passing options.filter (table.rows.filter fun row => row.isCandidate now options.shards) with
  | error failure => rw [passed] at done; cases done
  | ok eligible =>
    rw [passed] at done
    cases done
    have candidates := passing_sublist passed
    have sorted := sortBy_perm (StoredMessage.compareBy options.order) eligible
    constructor
    · have distinct : (eligible.map StoredMessage.id).Nodup :=
        ascending.nodup.sublist ((candidates.trans List.filter_sublist).map _)
      exact ((sorted.map _).nodup_iff.mpr distinct).sublist ((List.take_sublist _ _).map _)
    · intro row member
      have kept := candidates.subset (sorted.subset (List.take_subset _ _ member))
      obtain ⟨present, candidate⟩ := List.mem_filter.mp kept
      exact ⟨present, candidate⟩

/-! Rows that are mutated. -/

/-- Rows change in place, and all but the addressed ones stay as they are. -/
structure Mutates (touched : MessageId → Prop) (before after : Table) : Prop where
  sequence : after.sequence = before.sequence
  rows : ∃ change : StoredMessage → StoredMessage, after.rows = before.rows.map change ∧
    ∀ row ∈ before.rows, (change row).receipt = row.receipt ∧ (¬ touched row.address → change row = row)

theorem Mutates.refl (touched : MessageId → Prop) (table : Table) : Mutates touched table table :=
  ⟨rfl, id, (List.map_id _).symm, fun _ _ => ⟨rfl, fun _ => rfl⟩⟩

theorem Mutates.mono {first touched : MessageId → Prop} {before after : Table} (mutates : Mutates first before after)
    (wider : ∀ id, first id → touched id) : Mutates touched before after := by
  obtain ⟨change, rows, kept⟩ := mutates.rows
  refine ⟨mutates.sequence, change, rows, fun row member => ⟨(kept row member).1, fun untouched => ?_⟩⟩
  exact (kept row member).2 fun reached => untouched (wider _ reached)

theorem Mutates.trans {first second touched : MessageId → Prop} {before middle after : Table}
    (earlier : Mutates first before middle) (later : Mutates second middle after)
    (left : ∀ id, first id → touched id) (right : ∀ id, second id → touched id) : Mutates touched before after := by
  obtain ⟨change, rows, kept⟩ := earlier.rows
  obtain ⟨next, moreRows, moreKept⟩ := later.rows
  refine ⟨later.sequence.trans earlier.sequence, next ∘ change, ?_, ?_⟩
  · rw [moreRows, rows, List.map_map]
  · intro row member
    obtain ⟨receipt, same⟩ := kept row member
    obtain ⟨moreReceipt, moreSame⟩ := moreKept (change row) (rows ▸ List.mem_map_of_mem member)
    refine ⟨moreReceipt.trans receipt, fun untouched => ?_⟩
    have unchanged := same fun reached => untouched (left _ reached)
    have unmoved : ¬ second (change row).address := by
      rw [unchanged]
      exact fun reached => untouched (right _ reached)
    exact (moreSame unmoved).trans unchanged

theorem mutates_replace {table : Table} (ascending : Ascending table.rows) {row changed : StoredMessage}
    (present : row ∈ table.rows) (same : changed.receipt = row.receipt) :
    Mutates (· = row.address) table (table.replace changed) := by
  refine ⟨rfl, fun other => if other.id = changed.id then changed else other, rfl, fun other member => ?_⟩
  have ids := StoredMessage.receipt_id same
  dsimp only
  split
  · rename_i equal
    obtain rfl := eq_of_id ascending member present (equal.trans ids)
    exact ⟨same, fun untouched => absurd rfl untouched⟩
  · exact ⟨rfl, fun _ => rfl⟩

theorem Mutates.ascending {touched : MessageId → Prop} {before after : Table} (mutates : Mutates touched before after)
    (ascending : Ascending before.rows) : Ascending after.rows := by
  obtain ⟨change, rows, kept⟩ := mutates.rows
  rw [rows]
  exact ascending.map fun row member => (kept row member).1

/-- Some outcome says that the message was changed. -/
def Touched (outcomes : List MutationOutcome) (id : MessageId) : Prop :=
  ∃ scheduledAt remaining, MutationOutcome.mutated id scheduledAt remaining ∈ outcomes

theorem mutate_mutates {table : Table} (ascending : Ascending table.rows) (now : Instant) (mutations : List Mutation)
    (id : MessageId) :
    Mutates (fun other => ∀ outcome, (table.mutate now mutations id).1 = .ok outcome → Touched [outcome] other) table
      (table.mutate now mutations id).2 := by
  unfold mutate
  cases found : table.rows.find? fun row => row.address = id with
  | none => exact .refl _ table
  | some row =>
    have named : row.address = id := by simpa using List.find?_some found
    subst named
    have present := List.mem_of_find?_eq_some found
    have receipt := row.mutateAll_receipt now mutations
    cases done : row.mutateAll now mutations with
    | mk failed changed =>
      rw [done] at receipt
      simp only [done]
      cases failed with
      | none =>
        refine (mutates_replace ascending present receipt).mono ?_
        rintro _ rfl outcome ⟨⟩
        exact ⟨_, _, List.mem_singleton_self _⟩
      | some overflow =>
        refine (mutates_replace ascending present receipt).mono ?_
        rintro _ _ outcome ⟨⟩

/-- Mutating changes nothing but the rows that the outcomes name, unless it stops half-way. -/
theorem mutateAll_mutates {table : Table} (ascending : Ascending table.rows) (now : Instant)
    (mutations : List Mutation) (ids : List MessageId) :
    Mutates (fun other => ∀ outcomes, (table.mutateAll now mutations ids).1 = .ok outcomes → Touched outcomes other)
      table (table.mutateAll now mutations ids).2 := by
  induction ids generalizing table with
  | nil => exact .refl _ table
  | cons id rest ih =>
    have first := mutate_mutates ascending now mutations id
    unfold mutateAll
    cases done : table.mutate now mutations id with
    | mk result changed =>
      rw [done] at first
      cases result with
      | error overflow =>
        refine first.mono ?_
        rintro _ _ outcomes ⟨⟩
      | ok outcome =>
        have later := ih (first.ascending ascending)
        dsimp only at later ⊢
        refine first.trans later ?_ ?_
        · intro other touched outcomes all
          obtain ⟨scheduledAt, remaining, here⟩ := touched outcome rfl
          cases others : (changed.mutateAll now mutations rest).1 with
          | error overflow => rw [others] at all; cases all
          | ok found =>
            rw [others] at all
            cases all
            exact ⟨scheduledAt, remaining, List.mem_singleton.mp here ▸ List.mem_cons_self⟩
        · intro other touched outcomes all
          cases others : (changed.mutateAll now mutations rest).1 with
          | error overflow => rw [others] at all; cases all
          | ok found =>
            rw [others] at all
            cases all
            obtain ⟨scheduledAt, remaining, there⟩ := touched found others
            exact ⟨scheduledAt, remaining, List.mem_cons_of_mem _ there⟩

end Table

end LeaseQueue
