import LeaseQueue.Proofs.Memory.Selection

/-!
The comparison that messages are delivered by. It is a total order over messages whose ordered columns hold no NaN, and
then what a receive leases does not depend on how the table was gathered. A NaN ties with every number, so wherever a
floating column is ordered by, three messages can go round in a circle.
-/
namespace LeaseQueue

section

variable {α : Type} {cmp : α → α → Ordering} {xs ys : List α}

/-- A consistent comparison that tells all elements apart sorts every arrangement of them alike. -/
theorem sortBy_eq_of_perm (perm : ys.Perm xs) (consistent : Std.TransCmp fun x y : {x // x ∈ xs} => cmp x y)
    (apart : ∀ x ∈ xs, ∀ y ∈ xs, cmp x y = .eq → x = y) : sortBy cmp ys = sortBy cmp xs := by
  let seat (y : {y // y ∈ ys}) : {x // x ∈ xs} := ⟨y, perm.subset y.2⟩
  have swap : Std.OrientedCmp fun x y : {y // y ∈ ys} => cmp x y :=
    ⟨fun {x y} => consistent.eq_swap (a := seat x) (b := seat y)⟩
  have rearranged : Std.TransCmp fun x y : {y // y ∈ ys} => cmp x y :=
    ⟨fun {x y z} => consistent.isLE_trans (a := seat x) (b := seat y) (c := seat z)⟩
  have gathered : (sortBy cmp ys).Perm (sortBy cmp xs) :=
    (sortBy_perm cmp ys).trans (perm.trans (sortBy_perm cmp xs).symm)
  refine gathered.eq_of_pairwise (fun x y left right le ge => ?_) (sortBy_sorted_of_mem ys rearranged)
    (sortBy_sorted_of_mem xs consistent)
  have here : x ∈ xs := perm.subset ((sortBy_perm cmp ys).subset left)
  have there : y ∈ xs := (sortBy_perm cmp xs).subset right
  exact apart x here y there (consistent.isLE_antisymm (a := ⟨x, here⟩) (b := ⟨y, there⟩) le ge)

end

/-! A NaN among the values of a column. -/

/-- Of the column types the two whose values can be unordered. -/
def ValueType.IsFloating (type : ValueType) : Prop := type = .real ∨ type = .double

/-- A NaN is ordered against nothing. -/
theorem Value.compare?_of_isNaN {x : Value} (unordered : x.isNaN) (y : Value) :
    x.compare? y = none ∧ y.compare? x = none := by
  have alone : x.compare? y = none := by
    cases x <;> cases y <;> first | rfl | cases unordered | skip
    all_goals
      change Binary.compare? _ _ = none
      refine if_pos ?_
      rw [Bool.or_eq_true]
      exact Or.inl unordered
  refine ⟨alone, ?_⟩
  rw [compare?_swap x y, alone]
  rfl

/-- A floating type has a number below another, and a NaN. -/
theorem ValueType.IsFloating.exists_nan {type : ValueType} (floating : type.IsFloating) :
    ∃ low high nan : Value, low.type = type ∧ high.type = type ∧ nan.type = type ∧
      low.compare? high = some .lt ∧ nan.isNaN := by
  rcases floating with rfl | rfl
  · exact ⟨.real (.ofNat _ 0x3f800000), .real (.ofNat _ 0x40000000), .real (.ofNat _ 0x7fc00000), rfl, rfl, rfl,
      by decide +kernel, by decide +kernel⟩
  · exact ⟨.double (.ofNat _ 0x3ff0000000000000), .double (.ofNat _ 0x4000000000000000),
      .double (.ofNat _ 0x7ff8000000000000), rfl, rfl, rfl, by decide +kernel, by decide +kernel⟩

/-- Metadata with a value in one column. -/
def Meta.single (column : String) (value : Value) : Meta := (∅ : Meta).insert column value

theorem Meta.getElem?_single (column key : String) (value : Value) :
    (Meta.single column value)[key]? = if column = key then some value else none := by
  unfold single
  rw [Std.ExtTreeMap.getElem?_insert, Std.ExtTreeMap.getElem?_empty]
  simp only [Std.compare_eq_iff_eq]

namespace Order

variable {column : String} {x y : Value}

/-- Only terms over the one column that rows have can tell them apart. -/
theorem compareRows_single (order : Order) (column : String) (x y : Value) :
    order.compareRows (.single column x) (.single column y) =
      if column = order.field.column then compareValues order.sort (some x) (some y) else .eq := by
  unfold compareRows
  rw [Meta.getElem?_single, Meta.getElem?_single]
  split <;> rfl

theorem compareAll_swap (orders : List Order) (first second : Meta) :
    compareAll orders second first = (compareAll orders first second).swap := by
  induction orders with
  | nil => rfl
  | cons order rest ih =>
    unfold compareAll
    rw [Ordering.swap_then, ih]
    exact congrArg (Ordering.then · _) (compareValues_swap order.sort _ _)

theorem compareAll_unordered (orders : List Order) (unordered : x.compare? y = none) :
    compareAll orders (.single column x) (.single column y) = .eq := by
  induction orders with
  | nil => rfl
  | cons order rest ih =>
    have tie : compareValues order.sort (some x) (some y) = .eq := by
      rw [compareValues_some, Value.compare?_swap x y, unordered]
      split <;> rfl
    unfold compareAll
    rw [compareRows_single, tie, ih]
    split <;> rfl

theorem compareAll_ordered {orders : List Order} (ordered : ∃ order ∈ orders, order.field.column = column)
    (less : x.compare? y = some .lt) : compareAll orders (.single column x) (.single column y) ≠ .eq := by
  induction orders with
  | nil =>
    obtain ⟨_, member, _⟩ := ordered
    cases member
  | cons order rest ih =>
    unfold compareAll
    rw [compareRows_single]
    split
    · rw [compareValues_some, Value.compare?_swap x y, less]
      split <;> exact nofun
    · rename_i other
      obtain ⟨found, member, rfl⟩ := ordered
      rcases List.mem_cons.mp member with rfl | later
      · exact absurd rfl other
      · exact ih ⟨found, later, rfl⟩

end Order

namespace StoredMessage

variable {orders : List Order} {rows : List StoredMessage}

/-- The columns of a message hold values of their declared types. -/
def Typed (types : String → ValueType) (row : StoredMessage) : Prop :=
  ∀ column value, row.metadata[column]? = some value → value.type = types column

theorem compareBy_swap (orders : List Order) (first second : StoredMessage) :
    compareBy orders second first = (compareBy orders first second).swap := by
  unfold compareBy
  rw [Ordering.swap_then, Ordering.swap_then, Ordering.swap_then, Order.compareAll_swap,
    Std.OrientedOrd.eq_swap (a := second.scheduledAt), Std.OrientedOrd.eq_swap (a := second.createdAt),
    Std.OrientedOrd.eq_swap (a := second.id)]

theorem eq_of_compareBy_eq (distinct : (rows.map id).Nodup) {first second : StoredMessage} (left : first ∈ rows)
    (right : second ∈ rows) (equal : compareBy orders first second = .eq) : first = second :=
  List.inj_on_of_nodup_map distinct left right (id_of_compareBy_eq equal)

/-- The types of the columns leave no room for a NaN, so messages of them are in a consistent order. -/
theorem uniform_of_typed {types : String → ValueType} {order : Order}
    (whole : ¬ (types order.field.column).IsFloating) (typed : ∀ row ∈ rows, row.Typed types) : order.Uniform rows := by
  refine ⟨types order.field.column, fun row member value found => ?_⟩
  have type := typed row member _ value found
  refine ⟨type, ?_⟩
  rw [← type] at whole
  cases value
  case real => exact absurd (Or.inl rfl) whole
  case double => exact absurd (Or.inr rfl) whole
  all_goals rfl

/-- A message that is due and has a value in one column. -/
def plain (id : Int) (column : String) (value : Value) : StoredMessage :=
  ⟨id, 1, 0, 0, none, 1, .empty, .single column value⟩

theorem plain_typed {types : String → ValueType} {column : String} {value : Value} (type : value.type = types column)
    (id : Int) : (plain id column value).Typed types := by
  intro key found present
  change (Meta.single column value)[key]? = some found at present
  rw [Meta.getElem?_single] at present
  split at present
  · rename_i same
    cases present
    rw [type, same]
  · cases present

theorem compareBy_plain (orders : List Order) (column : String) (x y : Value) (first second : Int) :
    compareBy orders (plain first column x) (plain second column y) =
      (Order.compareAll orders (.single column x) (.single column y)).then (compare first second) := rfl

/-- Where a floating column is ordered by, three messages go round in a circle: one that holds a NaN ties with both
others and stands between them by its id, and the others stand in the reverse order of their ids. -/
theorem exists_circle {types : String → ValueType} {order : Order} (member : order ∈ orders)
    (floating : (types order.field.column).IsFloating) :
    ∃ first second third : StoredMessage, first.Typed types ∧ second.Typed types ∧ third.Typed types ∧
      compareBy orders first second = .lt ∧ compareBy orders second third = .lt ∧
      compareBy orders third first = .lt := by
  obtain ⟨low, high, nan, lowType, highType, nanType, less, unordered⟩ := floating.exists_nan
  let column := order.field.column
  have tied (value : Value) := Value.compare?_of_isNaN unordered value
  have between (x y : Value) (back : Order.compareAll orders (.single column y) (.single column x) = .lt) :
      compareBy orders (plain 1 column x) (plain 2 column nan) = .lt ∧
      compareBy orders (plain 2 column nan) (plain 3 column y) = .lt ∧
      compareBy orders (plain 3 column y) (plain 1 column x) = .lt := by
    rw [compareBy_plain, compareBy_plain, compareBy_plain, Order.compareAll_unordered orders (tied x).2,
      Order.compareAll_unordered orders (tied y).1, back]
    decide
  cases decision : Order.compareAll orders (.single column low) (.single column high) with
  | eq => exact absurd decision (Order.compareAll_ordered ⟨order, member, rfl⟩ less)
  | lt =>
    exact ⟨_, _, _, plain_typed highType 1, plain_typed nanType 2, plain_typed lowType 3, between high low decision⟩
  | gt =>
    have back : Order.compareAll orders (.single column high) (.single column low) = .lt := by
      rw [Order.compareAll_swap, decision]
      rfl
    exact ⟨_, _, _, plain_typed lowType 1, plain_typed nanType 2, plain_typed highType 3, between low high back⟩

end StoredMessage

namespace Table

variable {table gathered : Table} {now : Instant} {options : ReceiveOptions} {chosen : List StoredMessage}

/-- A receive leases the same messages in the same order from a table that was gathered in another order. -/
theorem choose_of_perm (perm : gathered.rows.Perm table.rows) (distinct : (table.rows.map StoredMessage.id).Nodup)
    (uniform : ∀ order ∈ options.order, order.Uniform table.rows) (done : table.choose now options = .ok chosen) :
    gathered.choose now options = .ok chosen := by
  have each : ∀ row ∈ table.rows, row.Offered now options.shards →
      ∃ passes, rowPasses options.filter row.metadata = .ok passes := by
    intro row member offered
    cases answer : rowPasses options.filter row.metadata with
    | ok passes => exact ⟨passes, rfl⟩
    | error failure =>
      obtain ⟨first, stopped⟩ := choose_error member offered answer
      cases done.symm.trans stopped
  rw [choose_ok each] at done
  rw [choose_ok fun row member => each row (perm.subset member), ← done]
  have kept : ∀ row ∈ table.rows.filter fun row => row.Eligible now options, row ∈ table.rows :=
    fun row member => List.mem_of_mem_filter member
  rw [sortBy_eq_of_perm (perm.filter _)]
  · refine StoredMessage.compareBy_trans fun order member => ?_
    obtain ⟨type, plain⟩ := uniform order member
    exact ⟨type, fun row listed => plain row (kept row listed)⟩
  · exact fun first left second right => StoredMessage.eq_of_compareBy_eq distinct (kept first left) (kept second right)

/-- The comparison that candidates are sorted by is antisymmetric. On messages whose ordered columns hold values of one
type and no NaN it is a total order, and a receive leases the same sequence however they were gathered. For all messages
with columns of given types it is transitive exactly if no floating column is ordered by. -/
theorem delivery_total_unless_floating (options : ReceiveOptions) (types : String → ValueType) :
    let compared := StoredMessage.compareBy options.order
    (∀ first second, compared second first = (compared first second).swap) ∧
    (∀ table : Table, (∀ order ∈ options.order, order.Uniform table.rows) →
      (∀ first ∈ table.rows, ∀ second ∈ table.rows, ∀ third ∈ table.rows,
        (compared first second).isLE → (compared second third).isLE → (compared first third).isLE) ∧
      ((table.rows.map StoredMessage.id).Nodup →
        (∀ first ∈ table.rows, ∀ second ∈ table.rows, compared first second = .eq → first = second) ∧
        ∀ gathered : Table, gathered.rows.Perm table.rows → ∀ now chosen,
          gathered.choose now options = .ok chosen ↔ table.choose now options = .ok chosen)) ∧
    ((∀ first second third : StoredMessage, first.Typed types → second.Typed types → third.Typed types →
        (compared first second).isLE → (compared second third).isLE → (compared first third).isLE) ↔
      ∀ order ∈ options.order, ¬ (types order.field.column).IsFloating) := by
  dsimp only
  refine ⟨StoredMessage.compareBy_swap _, fun table uniform => ⟨?transitive, fun distinct => ⟨?ties, ?gathered⟩⟩,
    ?consistent, ?whole⟩
  case transitive =>
    intro first left second middle third right
    exact (StoredMessage.compareBy_trans uniform).isLE_trans (a := ⟨first, left⟩) (b := ⟨second, middle⟩)
      (c := ⟨third, right⟩)
  case ties => exact fun first left second right => StoredMessage.eq_of_compareBy_eq distinct left right
  case gathered =>
    intro gathered perm now chosen
    refine ⟨choose_of_perm perm.symm ((perm.map _).nodup_iff.mpr distinct) fun order member => ?_,
      choose_of_perm perm distinct uniform⟩
    obtain ⟨type, plain⟩ := uniform order member
    exact ⟨type, fun row present => plain row (perm.subset present)⟩
  case consistent =>
    intro transitive order member floating
    obtain ⟨first, second, third, firstTyped, secondTyped, thirdTyped, here, there, back⟩ :=
      StoredMessage.exists_circle member floating
    have le := transitive first second third firstTyped secondTyped thirdTyped (by rw [here]; rfl) (by rw [there]; rfl)
    rw [StoredMessage.compareBy_swap, back] at le
    cases le
  case whole =>
    intro whole first second third firstTyped secondTyped thirdTyped
    have typed : ∀ row ∈ [first, second, third], row.Typed types := by
      simp [firstTyped, secondTyped, thirdTyped]
    have consistent := StoredMessage.compareBy_trans fun order member =>
      StoredMessage.uniform_of_typed (whole order member) typed
    exact consistent.isLE_trans (a := ⟨first, by simp⟩) (b := ⟨second, by simp⟩) (c := ⟨third, by simp⟩)

end Table

def FieldName.urgency : FieldName := ⟨"urgency", by decide +kernel⟩

namespace StoredMessage

/-- A message of the given urgency. -/
def urgent (id : Int) (bits : Nat) : StoredMessage := plain id FieldName.urgency.column (.double (.ofNat _ bits))

end StoredMessage

/-- The least urgent messages first. -/
def calmFirst : ReceiveOptions := ⟨3, none, none, [⟨.urgency, .asc⟩], none⟩

/-- Three messages of the urgencies two, one and one. -/
def urgentRows : List StoredMessage :=
  [.urgent 1 0x4000000000000000, .urgent 2 0x3ff0000000000000, .urgent 3 0x3ff0000000000000]

/-- The urgencies are numbers, so the table may be read backwards. -/
theorem calm_first_backwards :
    (∀ now chosen, Table.choose ⟨⟨.default, 0, 4⟩, urgentRows.reverse⟩ now calmFirst = .ok chosen ↔
      Table.choose ⟨⟨.default, 0, 4⟩, urgentRows⟩ now calmFirst = .ok chosen) ∧
    (Table.choose ⟨⟨.default, 0, 4⟩, urgentRows⟩ 0 calmFirst).map (·.map StoredMessage.id) = .ok [2, 3, 1] := by
  have uniform : ∀ order ∈ calmFirst.order, order.Uniform urgentRows := by
    intro order member
    obtain rfl := List.mem_singleton.mp member
    refine ⟨.double, fun row present value found => ?_⟩
    simp only [urgentRows, List.mem_cons, List.not_mem_nil, or_false] at present
    rcases present with rfl | rfl | rfl
    all_goals
      change (Meta.single _ _)[_]? = _ at found
      rw [Meta.getElem?_single, if_pos rfl] at found
      cases found
      exact ⟨rfl, by decide +kernel⟩
  obtain ⟨_, ordered, _⟩ := Table.delivery_total_unless_floating calmFirst fun _ => .double
  obtain ⟨_, apart⟩ := ordered ⟨⟨.default, 0, 4⟩, urgentRows⟩ uniform
  exact ⟨(apart (by decide)).2 ⟨⟨.default, 0, 4⟩, urgentRows.reverse⟩ (List.reverse_perm _), by decide +kernel⟩

/-- Around a NaN there is a circle, and two arrangements of the messages are sorted into different sequences. -/
theorem calm_first_in_a_circle :
    let two := StoredMessage.urgent 1 0x4000000000000000
    let nan := StoredMessage.urgent 2 0x7ff8000000000000
    let one := StoredMessage.urgent 3 0x3ff0000000000000
    let compared := StoredMessage.compareBy calmFirst.order
    (compared two nan = .lt ∧ compared nan one = .lt ∧ compared two one = .gt) ∧
    ((sortBy compared [two, nan, one]).map StoredMessage.id = [1, 2, 3] ∧
      (sortBy compared [one, two, nan]).map StoredMessage.id = [3, 1, 2]) := by
  decide +kernel

end LeaseQueue
