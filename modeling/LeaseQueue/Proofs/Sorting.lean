import LeaseQueue.Order
import LeaseQueue.Proofs.Meta.Order
import Mathlib.Data.List.Perm.Basic

/-!
Sorting by insertion, and the comparison of rows by their columns. Rows whose columns hold values of one type are
compared consistently, so sorting puts them in order.
-/
namespace LeaseQueue

section

variable {α β : Type} {cmp : α → α → Ordering}

theorem insertLast_perm (cmp : α → α → Ordering) (x : α) (xs : List α) : (insertLast cmp x xs).Perm (x :: xs) := by
  induction xs with
  | nil => exact .refl _
  | cons last before ih =>
    unfold insertLast
    split
    · exact (ih.cons last).trans (.swap x last before)
    · exact .refl _

theorem sortBy_perm (cmp : α → α → Ordering) (xs : List α) : (sortBy cmp xs).Perm xs := by
  have folded (sorted : List α) : (xs.foldl (fun sorted x => insertLast cmp x sorted) sorted).Perm (xs ++ sorted) := by
    induction xs generalizing sorted with
    | nil => exact .refl _
    | cons x rest ih =>
      rw [List.foldl_cons]
      exact (ih _).trans (((insertLast_perm cmp x sorted).append_left rest).trans List.perm_middle)
  have sorted := folded []
  rw [List.append_nil] at sorted
  exact (List.reverse_perm _).trans sorted

theorem insertLast_map (cmp : α → α → Ordering) (f : β → α) (x : β) (xs : List β) :
    insertLast cmp (f x) (xs.map f) = (insertLast (fun x y => cmp (f x) (f y)) x xs).map f := by
  induction xs with
  | nil => rfl
  | cons last before ih =>
    rw [List.map_cons, insertLast, insertLast, ih]
    split <;> rfl

theorem sortBy_map (cmp : α → α → Ordering) (f : β → α) (xs : List β) :
    sortBy cmp (xs.map f) = (sortBy (fun x y => cmp (f x) (f y)) xs).map f := by
  have folded (sorted : List β) : (xs.map f).foldl (fun sorted x => insertLast cmp x sorted) (sorted.map f) =
      (xs.foldl (fun sorted x => insertLast (fun x y => cmp (f x) (f y)) x sorted) sorted).map f := by
    induction xs generalizing sorted with
    | nil => rfl
    | cons x rest ih =>
      rw [List.map_cons, List.foldl_cons, List.foldl_cons, insertLast_map, ih]
  unfold sortBy
  rw [List.map_reverse, ← folded]
  rfl

/-- One element goes before another by a comparison or, if that does not tell them apart, by a relation. -/
def Leads (cmp : α → α → Ordering) (r : α → α → Prop) (x y : α) : Prop := cmp x y = .lt ∨ cmp x y = .eq ∧ r x y

theorem insertLast_stable [Std.TransCmp cmp] {r : α → α → Prop} (x : α) {xs : List α}
    (sorted : xs.Pairwise fun later earlier => Leads cmp r earlier later) (behind : ∀ y ∈ xs, r y x) :
    (insertLast cmp x xs).Pairwise fun later earlier => Leads cmp r earlier later := by
  induction xs with
  | nil => exact List.pairwise_singleton _ _
  | cons last before ih =>
    obtain ⟨above, rest⟩ := List.pairwise_cons.mp sorted
    obtain ⟨behindLast, others⟩ := List.forall_mem_cons.mp behind
    unfold insertLast
    split
    · rename_i less
      refine List.pairwise_cons.mpr ⟨?_, ih rest others⟩
      intro other member
      rcases List.mem_cons.mp ((insertLast_perm cmp x before).subset member) with rfl | old
      · exact .inl less
      · exact above other old
    · rename_i notLess
      have follows : Leads cmp r last x := by
        unfold Leads
        rw [(Std.OrientedCmp.eq_swap : cmp last x = (cmp x last).swap)]
        cases order : cmp x last
        · exact absurd order notLess
        · exact .inr ⟨rfl, behindLast⟩
        · exact .inl rfl
      refine List.pairwise_cons.mpr ⟨?_, sorted⟩
      intro other member
      rcases List.mem_cons.mp member with rfl | old
      · exact follows
      · rcases above other old with less | ⟨same, -⟩ <;> rcases follows with less' | ⟨same', -⟩
        · exact .inl (Std.TransCmp.lt_trans less less')
        · exact .inl (Std.TransCmp.lt_of_lt_of_eq less same')
        · exact .inl (Std.TransCmp.lt_of_eq_of_lt same less')
        · exact .inr ⟨Std.TransCmp.eq_trans same same', others other old⟩

/-- Sorting by a consistent comparison puts all elements in order, and those that compare as equal keep theirs. -/
theorem sortBy_stable [Std.TransCmp cmp] {r : α → α → Prop} {xs : List α} (ordered : xs.Pairwise r) :
    (sortBy cmp xs).Pairwise (Leads cmp r) := by
  have folded (sorted : List α) (order : sorted.Pairwise fun later earlier => Leads cmp r earlier later)
      (behind : ∀ x ∈ xs, ∀ y ∈ sorted, r y x) :
      (xs.foldl (fun sorted x => insertLast cmp x sorted) sorted).Pairwise
        fun later earlier => Leads cmp r earlier later := by
    induction xs generalizing sorted with
    | nil => exact order
    | cons x rest ih =>
      obtain ⟨first, others⟩ := List.pairwise_cons.mp ordered
      obtain ⟨here, later⟩ := List.forall_mem_cons.mp behind
      refine ih others _ (insertLast_stable x order here) ?_
      intro y member z inserted
      rcases List.mem_cons.mp ((insertLast_perm cmp x sorted).subset inserted) with rfl | old
      · exact first y member
      · exact later y member z old
  exact List.pairwise_reverse.mpr (folded [] .nil (by simp))

theorem sortBy_sorted [Std.TransCmp cmp] (xs : List α) : (sortBy cmp xs).Pairwise fun x y => (cmp x y).isLE := by
  have unrelated : xs.Pairwise fun _ _ => True := List.pairwise_of_forall fun _ _ => trivial
  refine (sortBy_stable unrelated).imp ?_
  rintro x y (less | ⟨same, -⟩)
  · rw [less]
    rfl
  · rw [same]
    rfl

/-- It is enough that the comparison is consistent on the elements that are sorted. -/
theorem sortBy_sorted_of_mem (xs : List α) (consistent : Std.TransCmp fun x y : {x // x ∈ xs} => cmp x y) :
    (sortBy cmp xs).Pairwise fun x y => (cmp x y).isLE := by
  have sorted := @sortBy_sorted _ (fun x y : {x // x ∈ xs} => cmp x y) consistent xs.attach
  have same := sortBy_map cmp Subtype.val xs.attach
  rw [List.attach_map_subtype_val] at same
  rw [same]
  exact List.pairwise_map.mpr sorted

/-- In an ordered list what is left behind a prefix stands behind all of the prefix. -/
theorem behind_of_mem_take {r : α → α → Prop} {xs : List α} (ordered : xs.Pairwise r) {count : Nat} {x y : α}
    (member : x ∈ xs) (left : x ∉ xs.take count) (taken : y ∈ xs.take count) : r y x := by
  rw [← List.take_append_drop count xs] at ordered member
  exact (List.pairwise_append.mp ordered).2.2 y taken x ((List.mem_append.mp member).resolve_left left)

end

/-- Both numbers of a comparison that has an answer are numbers. -/
theorem Binary.isNaN_of_compare? {format : FloatFormat} {x y : Binary format} {ordering : Ordering}
    (order : x.compare? y = some ordering) : x.isNaN = false ∧ y.isNaN = false := by
  unfold Binary.compare? at order
  split at order
  · cases order
  · rename_i finite
    rw [Bool.or_eq_true, not_or, Bool.not_eq_true, Bool.not_eq_true] at finite
    exact finite

theorem Binary.compare?_trans {format : FloatFormat} {x y z : Binary format} {first second : Ordering}
    (here : x.compare? y = some first) (there : y.compare? z = some second) (le : first.isLE) (le' : second.isLE) :
    ∃ ordering, x.compare? z = some ordering ∧ ordering.isLE := by
  obtain ⟨low, middle⟩ := Binary.isNaN_of_compare? here
  obtain ⟨_, high⟩ := Binary.isNaN_of_compare? there
  rw [Binary.compare?_eq low middle] at here
  rw [Binary.compare?_eq middle high] at there
  cases here
  cases there
  exact ⟨_, Binary.compare?_eq low high, Std.TransCmp.isLE_trans le le'⟩

namespace Value

/-- The order of values is transitive. -/
theorem compare?_trans {x y z : Value} {first second : Ordering} (here : x.compare? y = some first)
    (there : y.compare? z = some second) (le : first.isLE) (le' : second.isLE) :
    ∃ ordering, x.compare? z = some ordering ∧ ordering.isLE := by
  cases x <;> cases y <;> try cases here
  all_goals cases z <;> try cases there
  case real => exact Binary.compare?_trans here there le le'
  case double => exact Binary.compare?_trans here there le le'
  all_goals exact ⟨_, rfl, Std.TransCmp.isLE_trans le le'⟩

end Value

/-- A value of a type that is a number if the type is floating. -/
structure Value.Plain (type : ValueType) (value : Value) : Prop where
  typed : value.type = type
  number : value.isNaN = false

/-- Values of one type are in a consistent order. -/
theorem Value.isLE_trans_of_plain {type : ValueType} {x y z : Value} (first : x.Plain type) (second : y.Plain type)
    (third : z.Plain type) (here : ((x.compare? y).getD .eq).isLE) (there : ((y.compare? z).getD .eq).isLE) :
    ((x.compare? z).getD .eq).isLE := by
  obtain ⟨low, compared⟩ := compare?_isSome (first.typed.trans second.typed.symm) first.number second.number
  obtain ⟨high, recompared⟩ := compare?_isSome (second.typed.trans third.typed.symm) second.number third.number
  rw [compared] at here
  rw [recompared] at there
  obtain ⟨ordering, done, le⟩ := compare?_trans compared recompared here there
  rw [done]
  exact le

namespace Order

/-- A descending order is the ascending one of the values exchanged. -/
theorem compareValues_some (sort : SortOrder) (x y : Value) :
    compareValues sort (some x) (some y) =
      if sort.isDescending then (y.compare? x).getD .eq else (x.compare? y).getD .eq := by
  dsimp only [compareValues]
  rw [Value.compare?_swap x y]
  cases x.compare? y <;> rfl

theorem compareValues_swap (sort : SortOrder) (first second : Option Value) :
    compareValues sort first second = (compareValues sort second first).swap := by
  rcases first with _ | x <;> rcases second with _ | y
  · rfl
  · cases sort <;> rfl
  · cases sort <;> rfl
  · rw [compareValues_some, compareValues_some, Value.compare?_swap y x]
    split <;> cases y.compare? x <;> simp

theorem compareValues_trans (sort : SortOrder) {type : ValueType} {first second third : Option Value}
    (ofFirst : ∀ x, first = some x → x.Plain type) (ofSecond : ∀ y, second = some y → y.Plain type)
    (ofThird : ∀ z, third = some z → z.Plain type) (here : (compareValues sort first second).isLE)
    (there : (compareValues sort second third).isLE) : (compareValues sort first third).isLE := by
  rcases first with _ | x <;> rcases second with _ | y <;> rcases third with _ | z
  case some.some.some =>
    rw [compareValues_some] at here there ⊢
    split
    · rw [if_pos ‹_›] at here there
      exact Value.isLE_trans_of_plain (ofThird z rfl) (ofSecond y rfl) (ofFirst x rfl) there here
    · rw [if_neg ‹_›] at here there
      exact Value.isLE_trans_of_plain (ofFirst x rfl) (ofSecond y rfl) (ofThird z rfl) here there
  -- Where a null is among them, the place of the nulls decides.
  all_goals cases sort <;> first | rfl | (cases here; done) | cases there

variable {ι : Type} {key : ι → Meta}

/-- A term over a column with values of one type compares rows consistently. -/
theorem compareRows_trans {order : Order} {type : ValueType}
    (plain : ∀ i value, (key i)[order.field.column]? = some value → value.Plain type) :
    Std.TransCmp fun i j => order.compareRows (key i) (key j) := by
  have swap : Std.OrientedCmp fun i j => order.compareRows (key i) (key j) := ⟨compareValues_swap order.sort _ _⟩
  exact ⟨fun {i j k} here there => compareValues_trans order.sort (plain i) (plain j) (plain k) here there⟩

theorem compareAll_trans {orders : List Order} (uniform : ∀ order ∈ orders, ∃ type : ValueType, ∀ i value,
    (key i)[order.field.column]? = some value → value.Plain type) :
    Std.TransCmp fun i j => compareAll orders (key i) (key j) := by
  induction orders with
  | nil =>
    have swap : Std.OrientedCmp fun i j => compareAll [] (key i) (key j) := ⟨rfl⟩
    exact ⟨fun _ _ => rfl⟩
  | cons order rest ih =>
    obtain ⟨type, plain⟩ := uniform order List.mem_cons_self
    have first := compareRows_trans plain
    have others := ih fun order member => uniform order (List.mem_cons_of_mem _ member)
    change Std.TransCmp (compareLex (fun i j => order.compareRows (key i) (key j))
      fun i j => compareAll rest (key i) (key j))
    infer_instance

end Order

end LeaseQueue
