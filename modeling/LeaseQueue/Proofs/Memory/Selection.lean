import LeaseQueue.Proofs.Memory.Receives

/-!
What a receive selects: among the messages that it may lease, the first ones in the order of delivery.
-/
namespace LeaseQueue

/-- One column value goes before another. A null counts as greater than every value, so that nulls come last where
values ascend and first where they descend, unless the order has a place for them. -/
inductive SortOrder.Before : SortOrder → Option Value → Option Value → Prop
  | less {sort : SortOrder} {x y : Value} (ascends : sort ∈ [asc, ascNullsFirst, ascNullsLast])
      (order : x.compare? y = some .lt) : Before sort (some x) (some y)
  | greater {sort : SortOrder} {x y : Value} (descends : sort ∈ [desc, descNullsFirst, descNullsLast])
      (order : x.compare? y = some .gt) : Before sort (some x) (some y)
  | nullFirst {sort : SortOrder} {y : Value} (first : sort ∈ [ascNullsFirst, desc, descNullsFirst]) :
      Before sort none (some y)
  | nullLast {sort : SortOrder} {x : Value} (last : sort ∈ [asc, ascNullsLast, descNullsLast]) :
      Before sort (some x) none

/-- A term of an order puts one row before another. -/
def Order.Before (order : Order) (first second : Meta) : Prop :=
  order.sort.Before first[order.field.column]? second[order.field.column]?

/-- The column of a term holds values of one type in all rows that have one. -/
def Order.Uniform (order : Order) (rows : List StoredMessage) : Prop :=
  ∃ type : ValueType, ∀ row ∈ rows, ∀ value, row.metadata[order.field.column]? = some value → value.Plain type

/-- A message is delivered before another one: the first term of the order that tells them apart decides, and behind
all terms the schedule, the creation and the id. -/
def StoredMessage.Precedes (first second : StoredMessage) : List Order → Prop
  | [] => first.scheduledAt < second.scheduledAt ∨ first.scheduledAt = second.scheduledAt ∧
      (first.createdAt < second.createdAt ∨ first.createdAt = second.createdAt ∧ first.id < second.id)
  | order :: rest => order.Before first.metadata second.metadata ∨
      ¬ order.Before second.metadata first.metadata ∧ first.Precedes second rest

namespace StoredMessage

variable {row : StoredMessage} {now : Instant} {shards : Option (List Int)} {options : ReceiveOptions}

/-- A consumer of the shards may lease the message, as far as its state goes. -/
def Offered (row : StoredMessage) (now : Instant) (shards : Option (List Int)) : Prop :=
  (row.state now = .ready ∨ row.state now = .retry) ∧ ∀ numbers ∈ shards, row.shard ∈ numbers

/-- A receive may lease the message. -/
def Eligible (row : StoredMessage) (now : Instant) (options : ReceiveOptions) : Prop :=
  row.Offered now options.shards ∧ rowPasses options.filter row.metadata = .ok true

instance : Decidable (row.Offered now shards) := inferInstanceAs (Decidable (_ ∧ _))

instance : Decidable (row.Eligible now options) := inferInstanceAs (Decidable (_ ∧ _))

theorem isCandidate_iff : row.isCandidate now shards ↔ row.Offered now shards := by
  have receivable : (row.state now).isReceivable ↔ row.state now = .ready ∨ row.state now = .retry := by
    cases row.state now <;> decide
  unfold isCandidate Offered
  rw [Bool.and_eq_true, receivable]
  cases shards <;> simp

end StoredMessage

/-! The order of delivery is the comparison that rows are sorted by. -/

theorem SortOrder.compareValues_lt {sort : SortOrder} {first second : Option Value} :
    Order.compareValues sort first second = .lt ↔ sort.Before first second := by
  have decides (order : Option Ordering) : order.getD .eq = .lt ↔ order = some .lt := by
    rcases order with _ | order
    · decide
    · rw [Option.getD_some, Option.some_inj]
  have ascends : sort.isDescending = false ↔ sort ∈ [asc, ascNullsFirst, ascNullsLast] := by cases sort <;> decide
  have descends : sort.isDescending = true ↔ sort ∈ [desc, descNullsFirst, descNullsLast] := by cases sort <;> decide
  rcases first with _ | x <;> rcases second with _ | y
  case none.none => exact ⟨nofun, nofun⟩
  case none.some =>
    cases sort
    all_goals first
      | exact ⟨fun _ => .nullFirst (by decide), fun _ => rfl⟩
      | exact ⟨nofun, fun before => by cases before; contradiction⟩
  case some.none =>
    cases sort
    all_goals first
      | exact ⟨fun _ => .nullLast (by decide), fun _ => rfl⟩
      | exact ⟨nofun, fun before => by cases before; contradiction⟩
  case some.some =>
    rw [Order.compareValues_some]
    cases direction : sort.isDescending with
    | false =>
      rw [if_neg nofun, decides]
      refine ⟨fun less => .less (ascends.mp direction) less, fun before => ?_⟩
      cases before with
      | less _ order => exact order
      | greater member _ => cases direction.symm.trans (descends.mpr member)
    | true =>
      rw [if_pos rfl, decides, Value.compare?_swap x y]
      refine ⟨fun less => .greater (descends.mp direction) ?_, fun before => ?_⟩
      · rcases order : x.compare? y with _ | ordering
        · rw [order] at less
          cases less
        · rw [order] at less
          cases ordering <;> first | rfl | cases less
      · cases before with
        | less member _ => cases direction.symm.trans (ascends.mpr member)
        | greater _ order =>
          rw [order]
          rfl

namespace Order

theorem compareRows_lt {order : Order} {first second : Meta} :
    order.compareRows first second = .lt ↔ order.Before first second := SortOrder.compareValues_lt

/-- Two rows are apart in a term unless it puts neither before the other. -/
theorem compareRows_eq {order : Order} {first second : Meta} :
    order.compareRows first second = .eq ↔ ¬ order.Before first second ∧ ¬ order.Before second first := by
  have swap : order.compareRows second first = (order.compareRows first second).swap :=
    compareValues_swap order.sort _ _
  rw [← compareRows_lt, ← compareRows_lt, swap]
  cases order.compareRows first second <;> decide

end Order

namespace StoredMessage

variable {first second : StoredMessage} {orders : List Order}

theorem compareBy_cons (order : Order) (rest : List Order) (first second : StoredMessage) :
    compareBy (order :: rest) first second =
      (order.compareRows first.metadata second.metadata).then (compareBy rest first second) :=
  Ordering.then_assoc _ _ _

/-- Rows are sorted by the order of delivery. -/
theorem compareBy_lt : compareBy orders first second = .lt ↔ first.Precedes second orders := by
  induction orders with
  | nil =>
    change (compare first.scheduledAt second.scheduledAt).then _ = .lt ↔ _
    rw [Ordering.then_eq_lt, Ordering.then_eq_lt, Int.compare_eq_lt, Int.compare_eq_lt, Int.compare_eq_lt,
      Int.compare_eq_eq, Int.compare_eq_eq]
    rfl
  | cons order rest ih =>
    rw [compareBy_cons, Ordering.then_eq_lt, Order.compareRows_lt, Order.compareRows_eq, ih]
    change _ ↔ order.Before first.metadata second.metadata ∨
      ¬ order.Before second.metadata first.metadata ∧ first.Precedes second rest
    tauto

theorem id_of_compareBy_eq (equal : compareBy orders first second = .eq) : first.id = second.id := by
  unfold compareBy at equal
  rw [Ordering.then_eq_eq, Ordering.then_eq_eq, Ordering.then_eq_eq] at equal
  exact Int.compare_eq_eq.mp equal.2.2.2

theorem compareBy_trans {rows : List StoredMessage} (uniform : ∀ order ∈ orders, order.Uniform rows) :
    Std.TransCmp fun first second : {row // row ∈ rows} => compareBy orders first second := by
  have columns : Std.TransCmp fun first second : {row // row ∈ rows} =>
      Order.compareAll orders first.1.metadata second.1.metadata := by
    refine Order.compareAll_trans fun order member => ?_
    obtain ⟨type, plain⟩ := uniform order member
    exact ⟨type, fun row => plain row row.2⟩
  change Std.TransCmp (compareLex (fun first second : {row // row ∈ rows} =>
    Order.compareAll orders first.1.metadata second.1.metadata) (compareLex (compareOn fun row => row.1.scheduledAt)
      (compareLex (compareOn fun row => row.1.createdAt) (compareOn fun row => row.1.id))))
  infer_instance

end StoredMessage

/-! Rows that pass a filter. -/

namespace Table

variable {filter : Option Condition} {rows : List StoredMessage}

theorem passing_ok (each : ∀ row ∈ rows, ∃ passes, rowPasses filter row.metadata = .ok passes) :
    passing filter rows = .ok (rows.filter fun row => rowPasses filter row.metadata = .ok true) := by
  induction rows with
  | nil => rfl
  | cons row rest ih =>
    obtain ⟨passes, answered⟩ := each row List.mem_cons_self
    unfold passing
    rw [answered, ih fun row member => each row (List.mem_cons_of_mem _ member), List.filter_cons, answered]
    cases passes <;> rfl

/-- A filter that cannot be evaluated on one row fails on all of them. -/
theorem passing_error {row : StoredMessage} (member : row ∈ rows) {failure : Error}
    (fails : rowPasses filter row.metadata = .error failure) : ∃ first, passing filter rows = .error first := by
  induction rows with
  | nil => cases member
  | cons head rest ih =>
    unfold passing
    cases answer : rowPasses filter head.metadata with
    | error first => exact ⟨first, rfl⟩
    | ok passes =>
      rcases List.mem_cons.mp member with rfl | later
      · cases answer.symm.trans fails
      · obtain ⟨first, stopped⟩ := ih later
        rw [stopped]
        exact ⟨first, rfl⟩

end Table

/-- Rows are the first ones, in the order of delivery, of those that a receive may lease. -/
structure Best (options : ReceiveOptions) (now : Instant) (rows chosen : List StoredMessage) : Prop where
  eligible : ∀ row ∈ chosen, row ∈ rows ∧ row.Eligible now options
  count : chosen.length = min options.limit (rows.countP fun row => row.Eligible now options)
  distinct : (chosen.map StoredMessage.id).Nodup
  sorted : chosen.Pairwise fun first second => first.Precedes second options.order
  first : ∀ row ∈ rows, row.Eligible now options → row ∉ chosen → ∀ taken ∈ chosen,
    ¬ row.Precedes taken options.order

namespace Table

variable {table : Table} {now : Instant} {options : ReceiveOptions}

theorem choose_ok (each : ∀ row ∈ table.rows, row.Offered now options.shards →
      ∃ passes, rowPasses options.filter row.metadata = .ok passes) :
    table.choose now options = .ok ((sortBy (StoredMessage.compareBy options.order)
      (table.rows.filter fun row => row.Eligible now options)).take options.limit) := by
  unfold choose
  rw [passing_ok, List.filter_filter]
  · have same : (table.rows.filter fun row => decide (rowPasses options.filter row.metadata = .ok true) &&
        row.isCandidate now options.shards) = table.rows.filter fun row => row.Eligible now options := by
      refine List.filter_congr fun row _ => ?_
      rw [Bool.eq_iff_iff, Bool.and_eq_true, decide_eq_true_eq, decide_eq_true_eq, StoredMessage.isCandidate_iff]
      exact And.comm
    rw [same]
    rfl
  · intro row member
    obtain ⟨present, candidate⟩ := List.mem_filter.mp member
    exact each row present (StoredMessage.isCandidate_iff.mp candidate)

theorem choose_error {row : StoredMessage} (member : row ∈ table.rows) (offered : row.Offered now options.shards)
    {failure : Error} (fails : rowPasses options.filter row.metadata = .error failure) :
    ∃ first, table.choose now options = .error first := by
  have candidate : row ∈ table.rows.filter fun row => row.isCandidate now options.shards :=
    List.mem_filter.mpr ⟨member, StoredMessage.isCandidate_iff.mpr offered⟩
  obtain ⟨first, stopped⟩ := passing_error candidate fails
  unfold choose
  rw [stopped]
  exact ⟨first, rfl⟩

/-- Rows sorted for delivery come one before the other. -/
theorem sorted_precedes {orders : List Order} {rows : List StoredMessage} (distinct : (rows.map StoredMessage.id).Nodup)
    (consistent : Std.TransCmp fun first second : {row // row ∈ rows} => StoredMessage.compareBy orders first second) :
    (sortBy (StoredMessage.compareBy orders) rows).Pairwise fun first second => first.Precedes second orders := by
  have apart : (sortBy (StoredMessage.compareBy orders) rows).Pairwise fun first second => first.id ≠ second.id :=
    List.pairwise_map.mp (((sortBy_perm (StoredMessage.compareBy orders) rows).map _).nodup_iff.mpr distinct)
  refine ((sortBy_sorted_of_mem rows consistent).and apart).imp fun {first second} ⟨le, differ⟩ => ?_
  rw [← StoredMessage.compareBy_lt]
  cases order : StoredMessage.compareBy orders first second with
  | lt => rfl
  | eq => exact absurd (StoredMessage.id_of_compareBy_eq order) differ
  | gt =>
    rw [order] at le
    cases le

theorem choose_best {chosen : List StoredMessage} (ascending : Ascending table.rows)
    (uniform : ∀ order ∈ options.order, order.Uniform table.rows)
    (each : ∀ row ∈ table.rows, row.Offered now options.shards →
      ∃ passes, rowPasses options.filter row.metadata = .ok passes)
    (done : table.choose now options = .ok chosen) : Best options now table.rows chosen := by
  rw [choose_ok each] at done
  cases done
  let eligible := table.rows.filter fun row => row.Eligible now options
  let sorted := sortBy (StoredMessage.compareBy options.order) eligible
  have perm : sorted.Perm eligible := sortBy_perm _ eligible
  have distinct : (eligible.map StoredMessage.id).Nodup := ascending.nodup.sublist (List.filter_sublist.map _)
  have consistent : Std.TransCmp fun first second : {row // row ∈ eligible} =>
      StoredMessage.compareBy options.order first second := by
    refine StoredMessage.compareBy_trans fun order member => ?_
    obtain ⟨type, plain⟩ := uniform order member
    exact ⟨type, fun row listed => plain row (List.mem_of_mem_filter listed)⟩
  have precedes : sorted.Pairwise fun first second => first.Precedes second options.order :=
    sorted_precedes distinct consistent
  refine ⟨fun row member => ?_, ?_, ?_, ?_, fun row present fits left taken member => ?_⟩
  · obtain ⟨present, fits⟩ := List.mem_filter.mp (perm.subset (List.mem_of_mem_take member))
    exact ⟨present, of_decide_eq_true fits⟩
  · rw [List.length_take, perm.length_eq, List.countP_eq_length_filter]
  · exact (((perm.map _).nodup_iff).mpr distinct).sublist ((List.take_sublist _ _).map _)
  · exact precedes.sublist (List.take_sublist _ _)
  · have here : row ∈ eligible := List.mem_filter.mpr ⟨present, decide_eq_true fits⟩
    have there : taken ∈ eligible := perm.subset (List.mem_of_mem_take member)
    have before := behind_of_mem_take precedes (perm.symm.subset here) left member
    have swap := consistent.eq_swap (a := ⟨row, here⟩) (b := ⟨taken, there⟩)
    dsimp only at swap
    rw [← StoredMessage.compareBy_lt] at before ⊢
    rw [swap, before]
    decide

end Table

namespace Run

open Database

variable {queue : Queue} {options : ReceiveOptions} {before : Database} {now : Instant}

/-- A visibility timeout that ends inside the calendar is one that the calendar's arithmetic can add. -/
theorem span_of_lasts {visibility : Duration} (clock : before.now = .ok now)
    (lasts : now + (visibility : Int) ≤ Instant.latest) :
    checkSpan visibility = .ok visibility ∧ now.add visibility = .ok (now + (visibility : Int)) := by
  have early : Instant.earliest ≤ now := by
    unfold Database.now Instant.add at clock
    dsimp only at clock
    split at clock
    · rename_i within
      cases clock
      exact within.1
    · cases clock
  have calendar : (Instant.latest : Int) - Instant.earliest ≤ longestSpan := by decide
  have later : (now : Int) ≤ now + (visibility : Int) := Int.le_add_of_nonneg_right (Int.natCast_nonneg visibility)
  have short : (visibility : Int) ≤ longestSpan := by
    have within : (visibility : Int) ≤ (Instant.latest : Int) - now := Int.le_sub_left_of_add_le lasts
    exact Int.le_trans within (Int.le_trans (Int.sub_le_sub_left early _) calendar)
  exact ⟨if_pos short, if_pos ⟨Int.le_trans early later, lasts⟩⟩

/-- Leases that end inside the calendar are all taken. -/
theorem leasing_lasts {visibility : Duration} {expiry : Instant} (due : now.add visibility = .ok expiry)
    (chosen : List StoredMessage) :
    leasing now visibility (.ok chosen) = (.ok (.ok (chosen.map fun row => (row.lease now expiry).leased now)),
      fun row => if row.id ∈ chosen.map StoredMessage.id then row.lease now expiry else row) := by
  unfold leasing
  cases chosen with
  | nil => exact congrArg (Prod.mk _) (funext fun row => (if_neg List.not_mem_nil).symm)
  | cons first others => rw [due]

theorem received_leasing (asks : options.limit ≠ 0) (clock : before.now = .ok now)
    (lasts : now + (queue.visibilityOf options : Int) ≤ Instant.latest) :
    received queue options before =
      leasing now (queue.visibilityOf options) (picked queue options now before) := by
  unfold received
  rw [if_neg asks, (span_of_lasts clock lasts).1, clock]

/-- A receive that does not sweep leases the best messages, in the order of delivery, and says what they are now; or
it cannot evaluate its filter on one of the messages that it is offered, and leaves everything alone. -/
theorem receive_leases_best (engine : SweepEngine) (asks : 1 ≤ options.limit) (clock : before.now = .ok now)
    (lasts : now + (queue.visibilityOf options : Int) ≤ Instant.latest)
    (ascending : Table.Ascending (before.rows queue.table))
    (uniform : ∀ order ∈ options.order, order.Uniform (before.rows queue.table)) :
    let rows := before.rows queue.table
    let expiry := now + (queue.visibilityOf options : Int)
    ∃ answer after, (receive engine false queue options).run.run before = (.ok answer, after) ∧
      ((∃ row ∈ rows, row.Offered now options.shards ∧
          ∃ failure, rowPasses options.filter row.metadata = .error failure) →
        (∃ failure, answer = .error failure) ∧ after.tables = before.tables) ∧
      ((∀ row ∈ rows, row.Offered now options.shards →
          ∃ passes, rowPasses options.filter row.metadata = .ok passes) →
        ∃ chosen, Best options now rows chosen ∧
          answer = .ok (chosen.map fun row =>
            ⟨row.address, row.createdAt, now, expiry, row.remaining - 1, row.payload, row.metadata⟩) ∧
          Changes queue.table (fun row =>
            if row.id ∈ chosen.map StoredMessage.id then
              { row with processingAt := some now, scheduledAt := expiry, remaining := row.remaining - 1 }
            else row) before after) := by
  dsimp only
  obtain ⟨after, ran, changes⟩ := @unswept_receive_received queue options before engine ascending
  rw [received_leasing (Nat.ne_of_gt asks) clock lasts] at ran changes
  have sequence : IdSequence := ⟨.default, 0, 0⟩
  rw [picked_eq sequence] at ran changes
  cases choice : Table.choose ⟨sequence, before.rows queue.table⟩ now options with
  | error failure =>
    rw [choice] at ran changes
    refine ⟨_, after, ran, fun _ => ⟨⟨failure, rfl⟩, ?_⟩, fun each => ?_⟩
    · exact changes.tables_eq (.refl _ before) fun _ _ => rfl
    · cases choice.symm.trans (Table.choose_ok each)
  | ok chosen =>
    rw [choice, leasing_lasts (span_of_lasts clock lasts).2] at ran changes
    refine ⟨_, after, ran, fun ⟨row, member, offered, failure, fails⟩ => ?_, fun each => ⟨chosen, ?_, rfl, changes⟩⟩
    · obtain ⟨first, stopped⟩ :=
        @Table.choose_error ⟨sequence, before.rows queue.table⟩ now options row member offered failure fails
      cases choice.symm.trans stopped
    · exact Table.choose_best ascending uniform each choice

end Run

def FieldName.rating : FieldName := ⟨"rating", by decide +kernel⟩

/-- Three messages that are due; the last one is not rated. -/
def ratedChores : Database :=
  Database.fresh.setTable chores.name
    ⟨⟨.default, 0, 4⟩,
      [⟨1, 1, 0, 0, none, 5, .empty, (∅ : Meta).insert FieldName.rating.column (.int 1)⟩,
        ⟨2, 1, 0, 0, none, 5, .empty, (∅ : Meta).insert FieldName.rating.column (.int 9)⟩,
        ⟨3, 1, 0, 0, none, 5, .empty, ∅⟩]⟩

def ratedFirst : ReceiveOptions := ⟨2, none, none, [⟨.rating, .descNullsLast⟩], none⟩

/-- The best rated message comes first, and the one without a rating is left. -/
theorem rated_chores_leased :
    let answer := ((Run.receive ⟨.disabled, ""⟩ false chores ratedFirst).run.run ratedChores).1
    (answer.map fun outcome => outcome.toOption.map fun messages => messages.map LeasedMessage.id) =
        .ok (some [⟨2, 1⟩, ⟨1, 1⟩]) ∧
      ∃ chosen, Best ratedFirst 0 (ratedChores.rows chores.table) chosen := by
  have rows : ratedChores.rows chores.table = _ := Database.rows_setTable _ _ _
  have ascending : Table.Ascending (ratedChores.rows chores.table) := by
    rw [rows]
    simp [Table.Ascending]
  have uniform : ∀ order ∈ ratedFirst.order, order.Uniform (ratedChores.rows chores.table) := by
    intro order member
    obtain rfl := List.mem_singleton.mp member
    refine ⟨.int, fun row present value found => ?_⟩
    rw [rows, List.mem_cons, List.mem_pair] at present
    rcases present with rfl | rfl | rfl
    · rw [Std.ExtTreeMap.getElem?_insert_self] at found
      cases found
      exact ⟨rfl, rfl⟩
    · rw [Std.ExtTreeMap.getElem?_insert_self] at found
      cases found
      exact ⟨rfl, rfl⟩
    · rw [Std.ExtTreeMap.getElem?_empty] at found
      cases found
  obtain ⟨_, _, _, _, best⟩ :=
    Run.receive_leases_best ⟨.disabled, ""⟩ (by decide) rfl (by decide) ascending uniform
  obtain ⟨chosen, first, _⟩ := best fun row _ _ => ⟨true, rfl⟩
  exact ⟨by decide +kernel, chosen, first⟩

end LeaseQueue
