import LeaseQueue.Proofs.Memory.Inspection
import LeaseQueue.Proofs.Queue.Sampling
import Mathlib.Algebra.BigOperators.Group.List.Basic

/-!
The values of a column. Messages are counted one by one in the order of their ids, and what holds of the groups after
each of them holds of all in the end: they tell the values apart and account for every message. Sorting them by count
keeps that, and groups of one size stay in the order of their first messages.
-/
namespace LeaseQueue

namespace Value

theorem equals_trans {x y z : Value} (first : x.equals y = true) (second : y.equals z = true) : x.equals z = true := by
  have here : x.compare? y = some .eq := beq_iff_eq.mp first
  have there : y.compare? z = some .eq := beq_iff_eq.mp second
  obtain ⟨ordering, compared, le⟩ := compare?_trans here there rfl rfl
  have back : y.compare? x = some .eq := by rw [compare?_swap x y, here]; rfl
  have back' : z.compare? y = some .eq := by rw [compare?_swap y z, there]; rfl
  obtain ⟨other, recompared, le'⟩ := compare?_trans back' back rfl rfl
  rw [compare?_swap x z, compared, Option.map_some, Option.some.injEq] at recompared
  subst recompared
  have equal : ordering = .eq := by
    cases ordering <;> simp at le le' ⊢
  rw [equal] at compared
  exact beq_iff_eq.mpr compared

theorem equals_self {x : Value} (number : x.isNaN = false) : x.equals x = true := by
  obtain ⟨ordering, compared⟩ := compare?_isSome (rfl : x.type = x.type) number number
  have swapped := compare?_swap x x
  rw [compared, Option.map_some, Option.some.injEq] at swapped
  have equal : ordering = .eq := by
    cases ordering <;> simp at swapped ⊢
  rw [equal] at compared
  exact beq_iff_eq.mpr compared

end Value

namespace Table

variable {x y z value : Option Value} {column : String} {row : StoredMessage} {seen rows : List StoredMessage}
variable {found : List DistinctValue}

theorem sameValue_comm (x y : Option Value) : sameValue x y = sameValue y x := by
  cases x <;> cases y <;> first | rfl | exact Value.equals_comm _ _

theorem sameValue_trans (first : sameValue x y = true) (second : sameValue y z = true) : sameValue x z = true := by
  cases x <;> cases y <;> cases z <;> simp only [sameValue, Bool.false_eq_true] at first second ⊢
  exact Value.equals_trans first second

/-- The value is a number if it is a floating one. -/
def IsNumber (value : Option Value) : Prop := ∀ present, value = some present → present.isNaN = false

theorem sameValue_self (number : IsNumber value) : sameValue value value = true := by
  cases value with
  | none => rfl
  | some present => exact Value.equals_self (number present rfl)

/-- The message has the value in the column, or has none there if the value is missing. -/
def Has (column : String) (value : Option Value) (row : StoredMessage) : Prop :=
  sameValue value row.metadata[column]? = true

instance : DecidablePred (Has column value) := fun _ => inferInstanceAs (Decidable (_ = true))

/-- The id is the lowest among the messages with a value. -/
def Lowest (column : String) (rows : List StoredMessage) (value : Option Value) (id : Int) : Prop :=
  (∃ row ∈ rows, Has column value row ∧ row.id = id) ∧ ∀ row ∈ rows, Has column value row → id ≤ row.id

/-- The lowest id of the messages of one group is below that of another. -/
def Earlier (column : String) (rows : List StoredMessage) (first second : DistinctValue) : Prop :=
  ∃ id other, Lowest column rows first.value id ∧ Lowest column rows second.value other ∧ id < other

/-- The groups tell the values of some messages apart and count each message once. -/
structure Accounts (column : String) (rows : List StoredMessage) (found : List DistinctValue) : Prop where
  apart : found.Pairwise fun first second => sameValue first.value second.value = false
  counted : ∀ group ∈ found, group.count = rows.countP (Has column group.value)
  covered : ∀ row ∈ rows, ∃ group ∈ found, Has column group.value row
  filled : ∀ group ∈ found, ∃ id, Lowest column rows group.value id
  total : (found.map DistinctValue.count).sum = rows.length

/-- A group with one more message if that has its value. -/
def raised (value : Option Value) (group : DistinctValue) : DistinctValue :=
  if sameValue group.value value then { group with count := group.count + 1 } else group

@[simp]
theorem raised_value (value : Option Value) (group : DistinctValue) : (raised value group).value = group.value := by
  unfold raised
  split <;> rfl

/-- A value that has a group raises its count. -/
theorem tally_known (apart : found.Pairwise fun first second => sameValue first.value second.value = false)
    (known : ∃ group ∈ found, sameValue group.value value = true) : tally value found = found.map (raised value) := by
  induction found with
  | nil => simp at known
  | cons group rest ih =>
    obtain ⟨others, distinct⟩ := List.pairwise_cons.mp apart
    unfold tally
    split
    · rename_i same
      have kept : rest.map (raised value) = rest := by
        refine (List.map_congr_left fun other member => ?_).trans (List.map_id _)
        refine if_neg fun also => ?_
        have together := sameValue_trans same ((sameValue_comm _ _).trans also)
        rw [others other member] at together
        cases together
      rw [List.map_cons, kept, raised, if_pos same]
    · rename_i other
      obtain ⟨found, member, same⟩ := known
      rcases List.mem_cons.mp member with rfl | later
      · exact absurd same other
      · rw [List.map_cons, raised, if_neg other, ih distinct ⟨found, later, same⟩]

/-- A new value gets a group behind the others. -/
theorem tally_new (new : ∀ group ∈ found, sameValue group.value value = false) :
    tally value found = found ++ [⟨value, 1⟩] := by
  induction found with
  | nil => rfl
  | cons group rest ih =>
    obtain ⟨other, others⟩ := List.forall_mem_cons.mp new
    unfold tally
    simp [other, ih others]

theorem sum_tally (value : Option Value) (found : List DistinctValue) :
    ((tally value found).map DistinctValue.count).sum = (found.map DistinctValue.count).sum + 1 := by
  induction found with
  | nil => rfl
  | cons group rest ih =>
    unfold tally
    split
    · simp only [List.map_cons, List.sum_cons]
      omega
    · simp only [List.map_cons, List.sum_cons, ih]
      omega

/-- Later messages do not change the lowest id. -/
theorem Lowest.concat {id : Int} (lowest : Lowest column seen value id) (above : ∀ other ∈ seen, other.id < row.id) :
    Lowest column (seen ++ [row]) value id := by
  obtain ⟨⟨first, member, has, rfl⟩, least⟩ := lowest
  refine ⟨⟨first, List.mem_append_left _ member, has, rfl⟩, ?_⟩
  intro other present also
  rcases List.mem_append.mp present with old | new
  · exact least other old also
  · rw [List.mem_singleton.mp new]
    exact (above first member).le

/-- The first message with a value has the lowest id. -/
theorem lowest_new (new : ∀ other ∈ seen, ¬ Has column value other) (has : Has column value row) :
    Lowest column (seen ++ [row]) value row.id := by
  refine ⟨⟨row, by simp, has, rfl⟩, ?_⟩
  intro other present also
  rcases List.mem_append.mp present with old | last
  · exact absurd also (new other old)
  · rw [List.mem_singleton.mp last]

theorem Earlier.concat {first second : DistinctValue} (earlier : Earlier column seen first second)
    (above : ∀ other ∈ seen, other.id < row.id) : Earlier column (seen ++ [row]) first second := by
  obtain ⟨id, other, lowest, lowest', less⟩ := earlier
  exact ⟨id, other, lowest.concat above, lowest'.concat above, less⟩

theorem countP_concat (seen : List StoredMessage) (row : StoredMessage) :
    (seen ++ [row]).countP (Has column value) =
      seen.countP (Has column value) + if Has column value row then 1 else 0 := by
  rw [List.countP_append, List.countP_singleton]
  simp

/-- The groups stand in the order of their lowest ids and account for the messages counted so far. -/
structure Tallied (column : String) (seen : List StoredMessage) (found : List DistinctValue) : Prop
    extends Accounts column seen found where
  earlier : found.Pairwise (Earlier column seen)

theorem Tallied.known (tallied : Tallied column seen found) (above : ∀ other ∈ seen, other.id < row.id)
    (known : ∃ group ∈ found, sameValue group.value row.metadata[column]? = true) :
    Tallied column (seen ++ [row]) (tally row.metadata[column]? found) := by
  have sum := sum_tally row.metadata[column]? found
  rw [tally_known tallied.apart known] at sum ⊢
  refine ⟨⟨?apart, ?counted, ?covered, ?filled, ?total⟩, ?earlier⟩
  case apart => simpa [List.pairwise_map] using tallied.apart
  case counted =>
    rw [List.forall_mem_map]
    intro group member
    rw [raised_value, countP_concat, Nat.cast_add, ← tallied.counted group member]
    by_cases same : sameValue group.value row.metadata[column]? = true
    · have has : Has column group.value row := same
      rw [if_pos has, raised, if_pos same]
      rfl
    · have other : ¬ Has column group.value row := same
      rw [if_neg other, raised, if_neg same]
      simp
  case covered =>
    intro other present
    rcases List.mem_append.mp present with old | new
    · obtain ⟨group, member, has⟩ := tallied.covered other old
      exact ⟨_, List.mem_map_of_mem member, by rwa [raised_value]⟩
    · obtain ⟨group, member, has⟩ := known
      rw [List.mem_singleton.mp new]
      exact ⟨_, List.mem_map_of_mem member, by rwa [raised_value]⟩
  case filled =>
    rw [List.forall_mem_map]
    intro group member
    obtain ⟨id, lowest⟩ := tallied.filled group member
    rw [raised_value]
    exact ⟨id, lowest.concat above⟩
  case total =>
    rw [sum, tallied.total, List.length_append]
    simp
  case earlier =>
    have moved := tallied.earlier.imp fun earlier => earlier.concat above
    simpa [List.pairwise_map, Earlier] using moved

theorem Tallied.new (tallied : Tallied column seen found) (above : ∀ other ∈ seen, other.id < row.id)
    (number : IsNumber row.metadata[column]?)
    (new : ∀ group ∈ found, sameValue group.value row.metadata[column]? = false) :
    Tallied column (seen ++ [row]) (tally row.metadata[column]? found) := by
  have sum := sum_tally row.metadata[column]? found
  have has : Has column row.metadata[column]? row := sameValue_self number
  have unseen : ∀ other ∈ seen, ¬ Has column row.metadata[column]? other := by
    intro other member also
    obtain ⟨group, present, has⟩ := tallied.covered other member
    have together := sameValue_trans has ((sameValue_comm _ _).trans also)
    rw [new group present] at together
    cases together
  have lowest := lowest_new unseen has
  rw [tally_new new] at sum ⊢
  refine ⟨⟨?apart, ?counted, ?covered, ?filled, ?total⟩, ?earlier⟩
  case apart =>
    rw [List.pairwise_append]
    exact ⟨tallied.apart, List.pairwise_singleton _ _, by simpa using new⟩
  case counted =>
    rw [List.forall_mem_append, List.forall_mem_singleton]
    constructor
    · intro group member
      have other : ¬ Has column group.value row := Bool.eq_false_iff.mp (new group member)
      rw [countP_concat, if_neg other, Nat.add_zero]
      exact tallied.counted group member
    · rw [countP_concat, if_pos has, List.countP_eq_zero.mpr (by simpa using unseen)]
      rfl
  case covered =>
    intro other present
    rcases List.mem_append.mp present with old | last
    · obtain ⟨group, member, has⟩ := tallied.covered other old
      exact ⟨group, List.mem_append_left _ member, has⟩
    · rw [List.mem_singleton.mp last]
      exact ⟨_, List.mem_append_right _ (List.mem_singleton_self _), has⟩
  case filled =>
    rw [List.forall_mem_append, List.forall_mem_singleton]
    constructor
    · intro group member
      obtain ⟨id, first⟩ := tallied.filled group member
      exact ⟨id, first.concat above⟩
    · exact ⟨row.id, lowest⟩
  case total =>
    rw [sum, tallied.total, List.length_append]
    simp
  case earlier =>
    rw [List.pairwise_append]
    refine ⟨tallied.earlier.imp fun earlier => earlier.concat above, List.pairwise_singleton _ _, ?_⟩
    intro group member last same
    rw [List.mem_singleton.mp same]
    obtain ⟨id, first⟩ := tallied.filled group member
    obtain ⟨other, present, -, rfl⟩ := first.1
    exact ⟨_, _, first.concat above, lowest, above other present⟩

/-- Counting the message with the next id keeps the account. -/
theorem Tallied.step (tallied : Tallied column seen found) (above : ∀ other ∈ seen, other.id < row.id)
    (number : IsNumber row.metadata[column]?) :
    Tallied column (seen ++ [row]) (tally row.metadata[column]? found) := by
  by_cases known : ∃ group ∈ found, sameValue group.value row.metadata[column]? = true
  · exact tallied.known above known
  · refine tallied.new above number fun group member => Bool.eq_false_iff.mpr fun same => known ⟨group, member, same⟩

/-- All messages are accounted for when they have been counted in the order of their ids. -/
theorem groups_tallied (ascending : Ascending rows) (numbers : ∀ row ∈ rows, IsNumber row.metadata[column]?) :
    Tallied column rows (groups column rows) := by
  have counted (seen rest : List StoredMessage) (found : List DistinctValue) (tallied : Tallied column seen found)
      (ascending : Ascending (seen ++ rest)) (numbers : ∀ row ∈ rest, IsNumber row.metadata[column]?) :
      Tallied column (seen ++ rest) (rest.foldl (fun found row => Table.tally row.metadata[column]? found) found) := by
    induction rest generalizing seen found with
    | nil => simpa using tallied
    | cons row rest ih =>
      obtain ⟨number, others⟩ := List.forall_mem_cons.mp numbers
      have above : ∀ other ∈ seen, other.id < row.id := fun other member =>
        (List.pairwise_append.mp ascending).2.2 other member row List.mem_cons_self
      have split : seen ++ row :: rest = (seen ++ [row]) ++ rest := by simp
      rw [split] at ascending ⊢
      exact ih (seen ++ [row]) _ (tallied.step above number) ascending others
  have empty : Tallied column [] [] := ⟨⟨.nil, nofun, nofun, nofun, rfl⟩, .nil⟩
  exact counted [] rows [] empty ascending numbers

/-! The order of the groups. -/

/-- One group stands before another: by its count in the direction of the sort, and among equal counts, or without a
sort, by its lowest id. -/
def Ranked (order : Option SortOrder) (column : String) (rows : List StoredMessage) (first second : DistinctValue) :
    Prop :=
  match order with
  | none => Earlier column rows first second
  | some sort =>
    (if sort.isDescending then second.count < first.count else first.count < second.count) ∨
      first.count = second.count ∧ Earlier column rows first second

theorem sortGroups_perm (order : Option SortOrder) (found : List DistinctValue) :
    (sortGroups order found).Perm found := by
  cases order with
  | none => exact .refl found
  | some sort => exact sortBy_perm _ found

/-- Groups are compared consistently by their counts in the direction of a sort. -/
theorem compareCounts_trans (sort : SortOrder) : Std.TransCmp fun x y : DistinctValue =>
    if sort.isDescending then compare y.count x.count else compare x.count y.count := by
  have ascending : Std.TransCmp (compareOn DistinctValue.count) := inferInstance
  cases sort.isDescending with
  | true => exact @Std.TransCmp.opposite _ _ ascending
  | false => exact ascending

/-- Sorting by count keeps the groups of one size in the order of their lowest ids, in both directions. -/
theorem sortGroups_ranked (order : Option SortOrder) (earlier : found.Pairwise (Earlier column rows)) :
    (sortGroups order found).Pairwise (Ranked order column rows) := by
  cases order with
  | none => exact earlier
  | some sort =>
    have consistent := compareCounts_trans sort
    refine List.Pairwise.imp ?_ (sortBy_stable earlier)
    intro first second leads
    dsimp only [Leads] at leads
    dsimp only [Ranked]
    by_cases descending : sort.isDescending = true
    · simp only [if_pos descending, compare_lt_iff_lt, compare_eq_iff_eq] at leads ⊢
      exact leads.imp_right fun ⟨same, ties⟩ => ⟨same.symm, ties⟩
    · simpa only [if_neg descending, compare_lt_iff_lt, compare_eq_iff_eq] using leads

theorem Accounts.perm {sorted : List DistinctValue} (accounts : Accounts column rows found)
    (perm : sorted.Perm found) : Accounts column rows sorted := by
  constructor
  case apart =>
    have symmetric {first second : DistinctValue} (apart : sameValue first.value second.value = false) :
        sameValue second.value first.value = false := (sameValue_comm _ _).trans apart
    exact (perm.pairwise_iff symmetric).mpr accounts.apart
  case counted => exact fun group member => accounts.counted group (perm.mem_iff.mp member)
  case covered =>
    intro row member
    obtain ⟨group, present, has⟩ := accounts.covered row member
    exact ⟨group, perm.mem_iff.mpr present, has⟩
  case filled => exact fun group member => accounts.filled group (perm.mem_iff.mp member)
  case total => rw [List.Perm.sum_eq (perm.map DistinctValue.count), accounts.total]

end Table

/-- What is wrong with a request for the values of a column. Its column is looked at first and its limit last. -/
inductive ValuesFault (queue : Queue) (column : String) (limit : Nat) (options : DistinctOptions) : ConfigFault → Prop
  | undeclared (absent : queue.column? column = none) :
    ValuesFault queue column limit options (.notMetaColumn queue.name.text column)
  | share {declared : MetaColumn} {share : Single} (found : queue.column? column = some declared)
    (unsound : ¬ options.Sound) (sample : options.sample = .percent share) :
    ValuesFault queue column limit options (.samplePercent share)
  | limit {declared : MetaColumn} (found : queue.column? column = some declared) (sound : options.Sound)
    (none : limit = 0) : ValuesFault queue column limit options .distinctLimit

namespace Run

open Database Table

variable {queue : Queue} {column : String} {limit : Nat} {options : DistinctOptions} {before : Database}

theorem distinctValues_run (queue : Queue) (column : String) (limit : Nat) (options : DistinctOptions)
    (before : Database) : (distinctValues queue column limit options).run.run before =
      (.ok (queue.requireColumn column >>= fun _ => options.validate >>= fun _ =>
        require (limit ≠ 0) .distinctLimit >>= fun _ =>
        (passing options.filter (before.rows queue.table)).map fun rows =>
          (sortGroups options.order (groups column rows)).take limit), before) := by
  unfold distinctValues
  rw [run_bind, run_get]
  dsimp only
  cases found : before.table? queue.name with
  | none =>
    have nothing : sortGroups options.order (groups column []) = [] := by cases options.order <;> rfl
    rw [show before.rows queue.table = [] from rows_of_none found]
    dsimp only [passing, Except.map]
    rw [nothing, List.take_nil]
    rfl
  | some table =>
    rw [show before.rows queue.table = table.rows from rows_of_table found]
    dsimp only [Table.distinctValues]
    cases passing options.filter table.rows <;> rfl

/-- A faulty request is refused. -/
theorem distinctValues_refused (faulty : queue.column? column = none ∨ ¬ options.Sound ∨ limit = 0) :
    ∃ fault, ValuesFault queue column limit options fault ∧
      (distinctValues queue column limit options).run.run before = (.ok (refuse fault), before) := by
  rw [distinctValues_run, Queue.requireColumn]
  cases found : queue.column? column with
  | none => exact ⟨_, .undeclared found, rfl⟩
  | some declared =>
    by_cases sound : options.Sound
    · rw [DistinctOptions.validate_of_sound sound]
      obtain rfl : limit = 0 := (faulty.resolve_left (by simp [found])).resolve_left (not_not.mpr sound)
      exact ⟨_, .limit found sound rfl, rfl⟩
    · obtain ⟨share, sample, refused⟩ := DistinctOptions.validate_of_not_sound sound
      rw [refused]
      exact ⟨_, .share found sound sample, rfl⟩

theorem distinctValues_ok {declared : MetaColumn} {matching : List StoredMessage}
    (found : queue.column? column = some declared) (sound : options.Sound) (asks : 1 ≤ limit)
    (passes : passing options.filter (before.rows queue.table) = .ok matching) :
    (distinctValues queue column limit options).run.run before =
      (.ok (.ok ((sortGroups options.order (groups column matching)).take limit)), before) := by
  have positive : decide (limit ≠ 0) = true := decide_eq_true (Nat.ne_of_gt asks)
  rw [distinctValues_run, Queue.requireColumn, found, DistinctOptions.validate_of_sound sound, passes, positive]
  rfl

/-- The values of a column account for every message that matches the filter: each value is told apart and comes with
the number of its messages, in the order that was asked for. A faulty request is refused. Nothing changes. -/
theorem distinctValues_accounts (queue : Queue) (column : String) (options : DistinctOptions) (before : Database) :
    let rows := before.rows queue.table
    let matching := rows.filter fun row => rowPasses options.filter row.metadata = .ok true
    (∀ limit, queue.column? column = none ∨ ¬ options.Sound ∨ limit = 0 →
      ∃ fault, ValuesFault queue column limit options fault ∧
        (distinctValues queue column limit options).run.run before = (.ok (refuse fault), before)) ∧
    ∀ declared, queue.column? column = some declared → options.Sound →
      (∀ filter, options.filter = some filter → filter.TextFree) → Ascending rows →
      (∀ row ∈ rows, IsNumber row.metadata[column]?) →
      ∃ found, Accounts column matching found ∧ found.Pairwise (Ranked options.order column matching) ∧
        (∀ limit, 1 ≤ limit →
          (distinctValues queue column limit options).run.run before = (.ok (.ok (found.take limit)), before)) ∧
        ∀ now, before.now = .ok now → ∃ counts,
          (count queue options.filter).run.run before = (.ok (.ok counts), before) ∧
          (found.map DistinctValue.count).sum = counts.total := by
  intro rows matching
  refine ⟨fun limit faulty => distinctValues_refused faulty, ?_⟩
  intro declared present sound free ascending numbers
  have evaluated (row : StoredMessage) : ∃ passes, rowPasses options.filter row.metadata = .ok passes := by
    cases filtered : options.filter with
    | none => exact ⟨true, rfl⟩
    | some filter => exact (free filter filtered).matchesRow_isOk row.metadata
  have passes : passing options.filter rows = .ok matching := passing_ok fun row _ => evaluated row
  have chosen : List.Sublist matching rows := List.filter_sublist
  have tallied : Tallied column matching (groups column matching) :=
    groups_tallied (ascending.sublist chosen) fun row member => numbers row (chosen.subset member)
  have perm := sortGroups_perm options.order (groups column matching)
  have accounts := tallied.perm perm
  refine ⟨_, accounts, sortGroups_ranked options.order tallied.earlier, ?_, ?_⟩
  · intro limit asks
    exact distinctValues_ok present sound asks passes
  · intro now clock
    refine ⟨stateCounts now matching, ?_, ?_⟩
    · rw [count_run options.filter clock, passes]
      rfl
    · rw [accounts.total, total_stateCounts]

end Run

/-- Four messages; one value is there twice, and one message has none. -/
def gradedChores : Database :=
  Database.fresh.setTable chores.name
    ⟨⟨.default, 0, 5⟩,
      [⟨1, 1, 0, 0, none, 5, .empty, (∅ : Meta).insert FieldName.rating.column (.int 1)⟩,
        ⟨2, 1, 0, 0, none, 5, .empty, ∅⟩,
        ⟨3, 1, 0, 0, none, 5, .empty, (∅ : Meta).insert FieldName.rating.column (.int 9)⟩,
        ⟨4, 1, 0, 0, none, 5, .empty, (∅ : Meta).insert FieldName.rating.column (.int 9)⟩]⟩

def ratedQueue : Queue := chores.withField .rating .int

/-- The most frequent values. -/
def frequent : DistinctOptions := ⟨.auto, none, some .desc⟩

/-- The value that is there twice comes first, and the one of the first message second. -/
theorem graded_chores_counted :
    let rows := gradedChores.rows ratedQueue.table
    let column := FieldName.rating.column
    (((Run.distinctValues ratedQueue column 2 frequent).run.run gradedChores).1.map fun outcome =>
        outcome.toOption.map fun found => found.map fun group => (group.value.isSome, group.count)) =
        .ok (some [(true, 2), (true, 1)]) ∧
      ∃ found, Table.Accounts column (rows.filter fun row => rowPasses none row.metadata = .ok true) found ∧
        (found.map DistinctValue.count).sum = 4 := by
  intro rows column
  have stored : gradedChores.rows ratedQueue.table = _ := Database.rows_setTable _ _ _
  have ascending : Table.Ascending (gradedChores.rows ratedQueue.table) := by
    rw [stored]
    simp [Table.Ascending]
  have numbers : ∀ row ∈ gradedChores.rows ratedQueue.table,
      Table.IsNumber row.metadata[FieldName.rating.column]? := by
    intro row member value found
    rw [stored, List.mem_cons, List.mem_cons, List.mem_pair] at member
    rcases member with rfl | rfl | rfl | rfl
    case inr.inl =>
      rw [Std.ExtTreeMap.getElem?_empty] at found
      cases found
    all_goals
      rw [Std.ExtTreeMap.getElem?_insert_self] at found
      cases found
      rfl
  have declared : ratedQueue.column? FieldName.rating.column = some ⟨.rating, .int⟩ := by decide +kernel
  obtain ⟨-, answered⟩ := Run.distinctValues_accounts ratedQueue FieldName.rating.column frequent gradedChores
  have sound : frequent.Sound := by
    intro share sampled
    cases sampled
  have free : ∀ filter, frequent.filter = some filter → filter.TextFree := by
    intro filter filtered
    cases filtered
  obtain ⟨found, accounts, -⟩ := answered _ declared sound free ascending numbers
  refine ⟨by decide +kernel, found, accounts, ?_⟩
  rw [accounts.total]
  decide +kernel

end LeaseQueue
