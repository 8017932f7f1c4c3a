import LeaseQueue.Proofs.Sql.Apart
import LeaseQueue.Proofs.Sql.Wording

/-!
Every statement that an operation sends spells the wording of its sentence: it binds what it names, and each value is
bound to the placeholder that stands where the value belongs.
-/
namespace LeaseQueue.Sql

open Condition (Binds binds_bindings shown shown_eq)
open Fragment (Apart)

/-- A statement whose fragment is read as it is spells what the fragment does under any such binding. -/
theorem Statement.Spells.of_apart {statement : Statement} {wording : Wording} (apart : Apart statement.text)
    (params : statement.params = wording.values)
    (slots : statement.text.slots.Perm (List.range' 1 wording.values.length))
    (filled : ∀ (write : Param → String) (bound : Nat → Option Param), Binds bound 1 wording.values →
      statement.text.fill (shown write bound) = (wording.text write).toList) : statement.Spells wording where
  params := params
  placeholders := by
    unfold Sql.placeholders
    rw [show marks statement.text.render.toList = _ from apart.reads]
    exact slots
  filled write := by
    have whole := filled write _ (binds_bindings 1 wording.values)
    unfold fillText
    rw [show marks statement.text.render.toList = _ from apart.reads]
    exact (congrArg String.ofList whole).trans String.ofList_toList

/-! Values in a row. -/

section

variable {write : Param → String} {bound : Nat → Option Param}

/-- The two first placeholders, and the others. -/
theorem range'_two (count : Nat) : List.range' 1 (count + 2) = 1 :: 2 :: List.range' 3 count := by
  rw [List.range'_succ, List.range'_succ]

/-! Parts of statements with their values. -/

/-- A fragment without placeholders. -/
def Bare (fragment : Fragment) : Prop := ∀ index, .placeholder index ∉ fragment

@[simp]
theorem bare_append (first second : Fragment) : Bare (first ++ second) ↔ Bare first ∧ Bare second := by
  simp [Bare, forall_and]

@[simp]
theorem bare_sql (content : String) : Bare (sql content) := fun index => by simp [sql]

@[simp]
theorem bare_name (identifier : String) : Bare (name identifier) := fun index => by simp [name]

theorem bare_join {separator : String} {fragments : List Fragment} (each : ∀ fragment ∈ fragments, Bare fragment) :
    Bare (Fragment.join separator fragments) := by
  induction fragments with
  | nil => exact fun index => List.not_mem_nil
  | cons first rest ih =>
    have later := ih fun fragment member => each fragment (List.mem_cons_of_mem _ member)
    cases rest with
    | nil => rw [Fragment.join_single]; exact each first List.mem_cons_self
    | cons second rest =>
      rw [Fragment.join_cons, bare_append, bare_append]
      exact ⟨each first List.mem_cons_self, bare_sql separator, later⟩

/-- A fragment without placeholders is filled as it is. -/
theorem fill_bare {fragment : Fragment} (bare : Bare fragment) (filling : Nat → String) :
    fragment.fill filling = fragment.render.toList := by
  show _ = fragment.letters
  rw [Fragment.letters_eq]
  unfold Fragment.fill Fragment.marks
  rw [List.flatMap_assoc]
  refine List.flatMap_congr fun piece member => ?_
  cases piece with
  | text content => exact Fragment.flatMap_char _ _
  | name identifier => exact Fragment.flatMap_char _ _
  | placeholder index => exact absurd member (bare index)

theorem slots_bare {fragment : Fragment} (bare : Bare fragment) : fragment.slots = [] := by
  unfold Fragment.slots Fragment.marks
  rw [List.filterMap_flatMap, List.flatMap_eq_nil_iff]
  intro piece member
  cases piece with
  | text content => exact Fragment.filterMap_char _
  | name identifier => exact Fragment.filterMap_char _
  | placeholder index => exact absurd member (bare index)

theorem bare_compare (column : String) (relation : Relation) {right : Operand} (bare : Bare right.fragment) :
    Bare (Expr.compare (.column column) relation right).fragment := by
  show Bare (name column ++ sql s!" {relation.text} " ++ right.fragment)
  simp [bare]

theorem bare_all {parts : List Expr} (each : ∀ part ∈ parts, Bare part.fragment) :
    Bare (Expr.all parts).fragment := by
  refine bare_join fun fragment member => ?_
  rw [fragments_eq] at member
  obtain ⟨part, listed, rfl⟩ := List.mem_map.mp member
  exact each part listed

section

open MessageState

@[simp]
theorem bare_due (clock : Clock) : Bare (due clock).fragment := bare_compare _ _ (bare_sql _)

@[simp]
theorem bare_pending (clock : Clock) : Bare (pending clock).fragment := bare_compare _ _ (bare_sql _)

@[simp]
theorem bare_attemptsLeft : Bare attemptsLeft.fragment := bare_compare _ _ (bare_sql _)

@[simp]
theorem bare_attemptsSpent : Bare attemptsSpent.fragment := bare_compare _ _ (bare_sql _)

@[simp]
theorem bare_neverLeased : Bare neverLeased.fragment := (bare_append _ _).mpr ⟨bare_name _, bare_sql _⟩

@[simp]
theorem bare_leasedBefore : Bare leasedBefore.fragment := (bare_append _ _).mpr ⟨bare_name _, bare_sql _⟩

theorem bare_predicate (state : MessageState) : Bare state.predicate.fragment := by
  cases state <;> exact bare_all (by simp)

theorem bare_sweepPredicate : Bare sweepPredicate.fragment := bare_all (by simp)

end

theorem fill_names (filling : Nat → String) (columns : List String) :
    (names columns).fill filling = (", ".intercalate columns).toList := by
  unfold names
  rw [Fragment.fill_join, String.toList_intercalate, List.map_map]
  simp [-String.reduceToList, Function.comp_def]

theorem slots_names (columns : List String) : (names columns).slots = [] := by
  unfold names
  rw [Fragment.slots_join, List.flatMap_map]
  simp

theorem slots_orderTerms (order : List Order) (schedule : String) : (orderTerms order schedule).slots = [] := by
  unfold orderTerms
  rw [Fragment.slots_join]
  simp

theorem fill_orderTerms (filling : Nat → String) (order : List Order) (schedule : String) :
    (orderTerms order schedule).fill filling = (Wording.orderTerms order schedule).toList := by
  unfold orderTerms Wording.orderTerms
  rw [Fragment.fill_join, String.toList_intercalate]
  simp [-String.reduceToList, Function.comp_def]

theorem slots_addressed : addressed.slots = [1, 2] := by
  simp [addressed, slots_names]

theorem fill_addressed {ids : List MessageId} (binds : Binds bound 1 (addressParams ids)) :
    addressed.fill (shown write bound) = (Wording.addressed write ids).toList := by
  have locals : bound 1 = some (.bigInts (ids.map MessageId.localId)) := binds 0 _ rfl
  have shards : bound 2 = some (.ints (ids.map MessageId.shard)) := binds 1 _ rfl
  unfold addressed Wording.addressed
  simp [-String.reduceToList, fill_names, shown_eq locals, shown_eq shards]

theorem fill_whereClause {filter : Option Condition} {index : Nat} (positive : 0 < index)
    (binds : Binds bound index (filterValues filter)) :
    (whereClause filter index).1.fill (shown write bound) = (Wording.whereClause write filter).toList := by
  cases filter with
  | none => rfl
  | some condition =>
    show Fragment.fill _ (sql " where " ++ (condition.compile index).expr.fragment) = _
    rw [compile_expr condition positive, Fragment.fill_append, Fragment.fill_sql, Condition.fill_expr condition _ binds]
    simp [-String.reduceToList, Wording.whereClause]

section

variable {options : ReceiveOptions}

theorem fill_shardTerms (binds : Binds bound 3 (leaseValues options)) :
    (shardTerms options).1.map (fun part => part.fragment.fill (shown write bound)) =
      (options.shards.map fun shards =>
        MessageColumn.shard.text ++ " = ANY (" ++ write (.ints shards) ++ ")").toList.map String.toList := by
  unfold shardTerms
  cases given : options.shards with
  | none => rfl
  | some shards =>
    have here : bound 3 = some (.ints shards) := binds 0 _ (by simp [leaseValues, given])
    simp [-String.reduceToList, Expr.fragment, Operand.fragment, shown_eq here]

theorem fill_filterTerms (binds : Binds bound 3 (leaseValues options)) :
    (filterTerms options (shardTerms options).2).map (fun part => part.fragment.fill (shown write bound)) =
      (options.filter.map fun filter => "(" ++ filter.literal write ++ ")").toList.map String.toList := by
  have behind : Binds bound (shardTerms options).2 (filterValues options.filter) := by
    have right := binds.right
    unfold shardTerms
    cases given : options.shards with
    | none => simpa [leaseValues, given] using right
    | some shards => simpa [leaseValues, given] using right
  unfold filterTerms
  cases given : options.filter with
  | none => rfl
  | some filter =>
    rw [given] at behind
    simp [-String.reduceToList, Expr.fragment, Condition.fill_expr filter _ behind]

theorem fill_leaseCondition (binds : Binds bound 3 (leaseValues options)) :
    (leaseCondition options).1.fragment.fill (shown write bound) =
      (" and ".intercalate (Wording.leaseTerms write options)).toList := by
  have leasable : (MessageState.leasable .wall).map (fun part => part.fragment.fill (shown write bound)) =
      ((MessageState.leasable .wall).map Expr.text).map String.toList := by
    rw [List.map_map]
    refine List.map_congr_left fun part member => ?_
    rcases List.mem_pair.mp member with rfl | rfl
    · exact fill_bare (bare_due _) _
    · exact fill_bare bare_attemptsLeft _
  rw [leaseCondition_eq]
  refine (Fragment.fill_join _ _ _).trans ?_
  unfold Wording.leaseTerms
  simp only [fragments_eq, List.map_map, List.map_append, String.toList_intercalate, Function.comp_def]
    at leasable ⊢
  rw [leasable, fill_shardTerms binds, fill_filterTerms binds]

end

end

/-! Statements. -/

section

variable {queue : Queue}

theorem deleteStatement_spells (ids : List MessageId) : (deleteStatement queue ids).Spells (.delete queue ids) := by
  refine .of_apart ?_ rfl ?_ fun write bound binds => ?_
  · unfold deleteStatement
    repeat' with_reducible apply Apart.append
    all_goals first | exact apart_table _ | exact apart_addressed | exact .sql (.of (by decide))
  · simp [deleteStatement, slots_addressed, Wording.delete, List.range'_succ]
  · have spelled : addressed.fill (shown write bound) = (Wording.addressed write ids).toList := fill_addressed binds
    simp [-String.reduceToList, deleteStatement, Wording.delete, spelled]

theorem pagesStatement_spells : (pagesStatement queue).Spells (.pages queue) := by
  refine .of_apart ?_ rfl ?_ fun write bound binds => ?_
  · exact ((Apart.sql (.of (by decide))).append (.slot 1)).append (.sql (.of (by decide)))
  · simp [pagesStatement, Wording.pages]
  · have table : bound 1 = some (.text queue.table) := binds 0 _ rfl
    simp [-String.reduceToList, pagesStatement, Wording.pages, shown_eq table]

theorem lockStatement_spells {function : String} (clear : Plain function) (lock : Int) :
    (lockStatement function lock).Spells (.askLock function lock) := by
  refine .of_apart ?_ rfl ?_ fun write bound binds => ?_
  · have asks : Plain s!"SELECT {function}(" := ((Plain.of (by decide)).append clear).append (.of (by decide))
    exact ((Apart.sql asks).append (.slot 1)).append (.sql (.of (by decide)))
  · simp [lockStatement, Wording.askLock]
  · have here : bound 1 = some (.bigInt lock) := binds 0 _ rfl
    simp [-String.reduceToList, lockStatement, Wording.askLock, shown_eq here]

theorem sweepStatement_spells (rows : Nat) : (sweepStatement queue.name rows).Spells (.sweepBatch queue rows) := by
  refine .of_apart ?_ rfl ?_ fun write bound binds => ?_
  · unfold sweepStatement
    repeat' with_reducible apply Apart.append
    all_goals first
      | exact apart_table queue
      | exact apart_column .id
      | exact apart_sweepPredicate
      | exact .slot _
      | exact .sql (.of (by decide))
  · simp [sweepStatement, Wording.sweepBatch, slots_bare bare_sweepPredicate]
  · have limit : bound 1 = some (.bigInt rows) := binds 0 _ rfl
    simp [-String.reduceToList, sweepStatement, Wording.sweepBatch, shown_eq limit, fill_bare bare_sweepPredicate,
      Expr.text, Queue.table]

theorem slots_countTerms : countTerms.flatMap Fragment.slots = [] := by
  rw [List.flatMap_eq_nil_iff]
  intro term member
  obtain ⟨state, _, rfl⟩ := List.mem_map.mp member
  simp [slots_bare (bare_predicate state)]

theorem fill_countTerms (filling : Nat → String) : countTerms.map (Fragment.fill filling) =
    (MessageState.all.map fun state =>
      "count(*) filter (where " ++ state.predicate.text ++ s!") as {state.name}").map String.toList := by
  unfold countTerms
  rw [List.map_map, List.map_map]
  refine List.map_congr_left fun state _ => ?_
  simp [-String.reduceToList, fill_bare (bare_predicate state), Expr.text]

theorem countStatement_spells {filter : Option Condition}
    (free : ∀ condition, filter = some condition → condition.dollarFree) :
    (countStatement queue filter).Spells (.count queue filter) := by
  refine .of_apart ?_ whereClause_params ?_ fun write bound binds => ?_
  · have counts : Apart (Fragment.join ", " countTerms) := .join (.of (by decide)) fun _ => apart_countTerms
    rw [countStatement_text]
    repeat' with_reducible apply Apart.append
    all_goals first
      | exact apart_table queue
      | exact apart_whereClause free
      | exact counts
      | exact .sql (.of (by decide))
  · rw [countStatement_text]
    simp [Fragment.slots_join, slots_countTerms, slots_whereClause, Wording.count, filterValues]
  · have clause : (whereClause filter 1).1.fill (shown write bound) = (Wording.whereClause write filter).toList :=
      fill_whereClause (by decide) binds
    rw [countStatement_text]
    simp [-String.reduceToList, Wording.count, Fragment.fill_join, fill_countTerms, String.toList_intercalate, clause]

theorem slots_countOrder (order : Option SortOrder) : (countOrder order).slots = [] := by
  cases order with
  | none => rfl
  | some order => exact Fragment.slots_sql _

theorem fill_countOrder (filling : Nat → String) (order : Option SortOrder) : (countOrder order).fill filling =
    (order.elim "" fun order => " order by total " ++ if order.isDescending then "desc" else "asc").toList := by
  cases order with
  | none => rfl
  | some order => exact Fragment.fill_sql _ _

theorem distinctStatement_spells {column : MetaColumn} {limit : Nat} {options : DistinctOptions} {share : Single}
    (free : ∀ condition, options.filter = some condition → condition.dollarFree) :
    (distinctStatement queue column limit options share).Spells (.distinct queue column limit options share) := by
  have params : (distinctStatement queue column limit options share).params =
      [.value (.real share), .bigInt limit] ++ filterValues options.filter :=
    congrArg ([Param.value (.real share), .bigInt limit] ++ ·) whereClause_params
  refine .of_apart ?_ params ?_ fun write bound binds => ?_
  · have value : Apart (name column.field.column) := .name column.field.plain
    rw [distinctStatement_text]
    repeat' with_reducible apply Apart.append
    all_goals first
      | exact value
      | exact apart_table queue
      | exact apart_whereClause free
      | exact apart_countOrder _
      | exact .slot _
      | exact .sql (.of (by decide))
  · rw [distinctStatement_text]
    have numbered : (whereClause options.filter 3).1.slots = List.range' 3 (filterValues options.filter).length :=
      slots_whereClause (by decide)
    have counted : (Wording.distinct queue column limit options share).values.length =
        (filterValues options.filter).length + 2 := rfl
    rw [counted, range'_two]
    simp [numbered, slots_countOrder, List.perm_append_singleton]
  · have shared : bound 1 = some (.value (.real share)) := binds 0 _ rfl
    have limited : bound 2 = some (.bigInt limit) := binds 1 _ rfl
    have behind : Binds bound 3 (filterValues options.filter) :=
      Binds.right (show Binds bound 1 ([.value (.real share), .bigInt limit] ++ _) from binds)
    rw [distinctStatement_text]
    simp [-String.reduceToList, fill_countOrder, Wording.distinct, shown_eq shared, shown_eq limited,
      fill_whereClause (by decide) behind]

theorem plain_leasedColumns {column : String} (member : column ∈ leasedColumns queue) : Plain column := by
  rcases List.mem_append.mp member with fixed | declared
  · obtain ⟨column, _, rfl⟩ := List.mem_map.mp fixed
    exact column.plain
  · obtain ⟨column, _, rfl⟩ := List.mem_map.mp declared
    exact column.field.plain

theorem leaseStatement_spells {options : ReceiveOptions} {visibility : Param}
    (fits : checkMillis (queue.visibilityOf options) = .ok visibility)
    (free : ∀ condition, options.filter = some condition → condition.dollarFree) :
    (leaseStatement queue options visibility).Spells (.lease queue options) := by
  obtain rfl := checkMillis_ok fits
  have params : (leaseStatement queue options (.bigInt (queue.visibilityOf options).millis)).params =
      [.bigInt options.limit, .bigInt (queue.visibilityOf options).millis] ++ leaseValues options := by
    unfold leaseStatement
    rw [leaseCondition_eq]
    rfl
  refine .of_apart ?_ params ?_ fun write bound binds => ?_
  · have schedule := apart_orderTerms options.order (MessageColumn.plain .scheduledAt)
    have leased : Apart (orderTerms options.order "lease_scheduled_at") := apart_orderTerms _ (.of (by decide))
    have returned : Apart (names (leasedColumns queue)) := apart_names fun _ => plain_leasedColumns
    unfold leaseStatement
    repeat' with_reducible apply Apart.append
    all_goals first
      | exact apart_table queue
      | exact apart_column _
      | exact apart_leaseCondition free
      | exact schedule
      | exact leased
      | exact returned
      | exact apart_later apart_wallClock 2
      | exact apart_wallClock
      | exact .slot _
      | exact .sql (.of (by decide))
  · have counted : (Wording.lease queue options).values.length = (leaseValues options).length + 2 := rfl
    rw [counted, range'_two]
    unfold leaseStatement
    simp [-String.reduceToList, slots_leaseCondition, slots_orderTerms, slots_names, later, wallClock]
    exact List.perm_append_comm
  · have limited : bound 1 = some (.bigInt options.limit) := binds 0 _ rfl
    have lasting : bound 2 = some (.bigInt (queue.visibilityOf options).millis) := binds 1 _ rfl
    have behind : Binds bound 3 (leaseValues options) :=
      Binds.right (show Binds bound 1 ([_, .bigInt (queue.visibilityOf options).millis] ++ _) from binds)
    unfold leaseStatement Wording.lease
    simp [-String.reduceToList, fill_orderTerms, fill_names, fill_leaseCondition behind, shown_eq limited,
      shown_eq lasting, later, Wording.later, wallClock]

/-- A mutation binds its amount to the placeholder that it is given. -/
structure Assigns (index : Nat) (mutation : Mutation) (written : Fragment × Param) : Prop where
  amount : written.2 = mutation.amount
  apart : Apart written.1
  slots : written.1.slots = [index]
  filled : ∀ (write : Param → String) (bound : Nat → Option Param), bound index = some mutation.amount →
    written.1.fill (shown write bound) = (Wording.assignment write mutation).toList

theorem assignment_assigns {mutation : Mutation} {index : Nat} {written : Fragment × Param}
    (done : assignment mutation index = .ok written) : Assigns index mutation written := by
  have attempts : Apart (name MessageColumn.remainingAttempts.text) := apart_column _
  have schedule : Apart (name MessageColumn.scheduledAt.text) := apart_column _
  have becomes : Apart (sql " = ") := .sql (.of (by decide))
  cases mutation with
  | addAttempts delta =>
    cases done
    refine ⟨rfl, ?_, by simp, fun write bound given => ?_⟩
    · exact (((attempts.append becomes).append attempts).append (.sql (.of (by decide)))).append (.slot index)
    · simp [-String.reduceToList, Wording.assignment, shown_eq given]
  | setAttempts number =>
    cases done
    refine ⟨rfl, (attempts.append becomes).append (.slot index), by simp, fun write bound given => ?_⟩
    simp [-String.reduceToList, Wording.assignment, shown_eq given]
  | addSchedule delta =>
    obtain rfl := checkMillis_with done
    refine ⟨rfl, (schedule.append becomes).append (apart_later schedule index), by simp [later],
      fun write bound given => ?_⟩
    simp [-String.reduceToList, Wording.assignment, shown_eq given, later, Wording.later]
  | setSchedule delay =>
    obtain rfl := checkMillis_with done
    refine ⟨rfl, (schedule.append becomes).append (apart_later apart_wallClock index), by simp [later, wallClock],
      fun write bound given => ?_⟩
    simp [-String.reduceToList, Wording.assignment, shown_eq given, later, Wording.later, wallClock]

/-- Mutations bind their amounts to placeholders in their order. -/
structure AssignsAll (index : Nat) (mutations : List Mutation) (written : List (Fragment × Param)) : Prop where
  amounts : written.map (·.2) = mutations.map Mutation.amount
  apart : ∀ fragment ∈ written.map (·.1), Apart fragment
  slots : (written.map (·.1)).flatMap Fragment.slots = List.range' index mutations.length
  filled : ∀ (write : Param → String) (bound : Nat → Option Param),
    Binds bound index (mutations.map Mutation.amount) →
      (written.map (·.1)).map (Fragment.fill (shown write bound)) =
        (mutations.map (Wording.assignment write)).map String.toList

theorem assignments_assign {mutations : List Mutation} {index : Nat} {written : List (Fragment × Param)}
    (done : assignments index mutations = .ok written) : AssignsAll index mutations written := by
  induction mutations generalizing index written with
  | nil =>
    cases done
    exact ⟨rfl, nofun, rfl, fun _ _ _ => rfl⟩
  | cons mutation rest ih =>
    obtain ⟨found, later, rfl, first, others⟩ := assignments_cons done
    have here := assignment_assigns first
    have behind := ih others
    refine ⟨?_, ?_, ?_, fun write bound binds => ?_⟩
    · rw [List.map_cons, List.map_cons, here.amount, behind.amounts]
    · rw [List.map_cons]
      exact List.forall_mem_cons.mpr ⟨here.apart, behind.apart⟩
    · rw [List.map_cons, List.flatMap_cons, here.slots, behind.slots, List.length_cons, List.range'_succ]
      rfl
    · have next : Binds bound (index + 1) (rest.map Mutation.amount) :=
        Binds.right (show Binds bound index ([mutation.amount] ++ _) from binds)
      simp only [List.map_cons, here.filled write bound (binds 0 _ rfl), behind.filled write bound next]

theorem mutateStatement_spells {mutations : List Mutation} {ids : List MessageId} {statement : Statement}
    (stated : mutateStatement queue mutations ids = .ok statement) :
    statement.Spells (.mutate queue mutations ids) := by
  obtain ⟨written, done, text, params⟩ := mutateStatement_ok stated
  have assigned := assignments_assign done
  rw [assigned.amounts] at params
  refine .of_apart ?_ params ?_ fun write bound binds => ?_
  · have all : Apart (Fragment.join ", " (written.map (·.1))) := .join (.of (by decide)) assigned.apart
    have returned : Apart (names mutatedColumns) := apart_names (by simp [mutatedColumns, MessageColumn.plain])
    rw [text]
    repeat' with_reducible apply Apart.append
    all_goals first
      | exact apart_table queue
      | exact apart_addressed
      | exact all
      | exact returned
      | exact .sql (.of (by decide))
  · have counted : (Wording.mutate queue mutations ids).values.length = mutations.length + 2 := by
      simp [Wording.mutate]
    rw [text, counted, range'_two]
    simp only [Fragment.slots_append, Fragment.slots_sql, Fragment.slots_name, Fragment.slots_join, assigned.slots,
      slots_addressed, slots_names, List.nil_append, List.append_nil]
    exact List.perm_append_comm
  · have whole : Binds bound 1 (addressParams ids ++ mutations.map Mutation.amount) := binds
    have amounts : Binds bound 3 (mutations.map Mutation.amount) := whole.right
    rw [text]
    simp [-String.reduceToList, Wording.mutate, Fragment.fill_join, assigned.filled write bound amounts,
      fill_addressed whole.left, fill_names, String.toList_intercalate]

/-! An insert writes each value of the metadata where its column stands. -/

theorem intercalate_cons (separator first : List Char) (rest : List (List Char)) :
    separator.intercalate (first :: rest) = first ++ rest.flatMap (separator ++ ·) := by
  induction rest generalizing first with
  | nil => simp
  | cons second rest ih => rw [List.intercalate_cons_cons, ih, List.flatMap_cons, List.append_assoc, List.append_assoc]

/-- Placeholders behind others, each after a comma. -/
def moreSlots (first count : Nat) : Fragment :=
  ((List.range' first count).map fun index => sql ", " ++ slot index).flatten

theorem apart_moreSlots (first count : Nat) : Apart (moreSlots first count) := by
  refine .flatten fun fragment member => ?_
  obtain ⟨index, _, rfl⟩ := List.mem_map.mp member
  exact (Apart.sql (.of (by decide))).append (.slot index)

theorem slots_moreSlots (first count : Nat) : (moreSlots first count).slots = List.range' first count := by
  unfold moreSlots
  induction count generalizing first with
  | zero => rfl
  | succ count ih => 
    rw [List.range'_succ, List.map_cons, List.flatten_cons, Fragment.slots_append, ih]
    simp

theorem fill_moreSlots {write : Param → String} {bound : Nat → Option Param} {first : Nat} {params : List Param}
    (binds : Binds bound first params) : (moreSlots first params.length).fill (shown write bound) =
      (params.map fun param => (write param).toList).flatMap (", ".toList ++ ·) := by
  unfold moreSlots
  induction params generalizing first with
  | nil => rfl
  | cons param rest ih =>
    have here : bound first = some param := binds 0 _ rfl
    have behind : Binds bound (first + 1) rest := Binds.right (show Binds bound first ([param] ++ rest) from binds)
    rw [List.length_cons, List.range'_succ, List.map_cons, List.flatten_cons, Fragment.fill_append, ih behind]
    simp [-String.reduceToList, shown_eq here]

theorem insertStatement_spells {shard : Int} {message : NewMessage} {delay : Param}
    (accepted : queue.checkMessage message = .ok ())
    (fits : checkMillis (queue.delayOf message) = .ok delay) :
    (insertStatement queue shard message delay).Spells (.insert queue shard message) := by
  obtain rfl := checkMillis_ok fits
  have plain : ∀ column ∈ insertedColumns ++ message.metadata.toList.map (·.1), Plain column := by
    intro column member
    rcases List.mem_append.mp member with fixed | own
    · obtain ⟨column, _, rfl⟩ := List.mem_map.mp fixed
      exact column.plain
    · obtain ⟨cell, listed, rfl⟩ := List.mem_map.mp own
      obtain ⟨declared, _, same⟩ := Queue.checkMessage_columns accepted listed
      exact same ▸ declared.field.plain
  have same : (insertStatement queue shard message (.bigInt (queue.delayOf message).millis)).text =
      sql "insert into " ++ name queue.table ++ sql " (" ++
        names (insertedColumns ++ message.metadata.toList.map (·.1)) ++ sql ") values (" ++ slot 1 ++ sql ", " ++
        later wallClock 2 ++ sql ", " ++ slot 3 ++ sql ", " ++ slot 4 ++ moreSlots 5 message.metadata.toList.length ++
        sql ") returning " ++ name MessageColumn.id.text := rfl
  refine .of_apart ?_ rfl ?_ fun write bound binds => ?_
  · rw [same]
    repeat' with_reducible apply Apart.append
    all_goals first
      | exact apart_table queue
      | exact apart_column .id
      | exact apart_names plain
      | exact apart_later apart_wallClock 2
      | exact apart_moreSlots _ _
      | exact .slot _
      | exact .sql (.of (by decide))
  · have counted : (Wording.insert queue shard message).values.length = message.metadata.toList.length + 4 := by
      simp [Wording.insert]
    rw [same, counted]
    simp [-String.reduceToList, slots_names, slots_moreSlots, later, wallClock, List.range'_succ]
  · have sharded : bound 1 = some (.int shard) := binds 0 _ rfl
    have delayed : bound 2 = some (.bigInt (queue.delayOf message).millis) := binds 1 _ rfl
    have allowed : bound 3 = some (.int (queue.attemptsOf message)) := binds 2 _ rfl
    have carried : bound 4 = some (.bytes message.payload) := binds 3 _ rfl
    have behind : Binds bound 5 (message.metadata.toList.map fun cell => .value cell.2) :=
      Binds.right (show Binds bound 1 ([_, _, _, .bytes message.payload] ++ _) from binds)
    rw [same]
    unfold Wording.insert Wording.cells
    generalize message.metadata.toList = row at behind ⊢
    have others : (moreSlots 5 row.length).fill (shown write bound) =
        row.flatMap fun cell => ", ".toList ++ (write (.value cell.2)).toList := by
      simpa [-String.reduceToList, List.flatMap_map] using fill_moreSlots behind
    simp [-String.reduceToList, fill_names, others, shown_eq sharded, shown_eq delayed, shown_eq allowed,
      shown_eq carried, insertedColumns, later, Wording.later, wallClock, String.toList_intercalate, intercalate_cons,
      List.flatMap_map]

end

/-- A statement without placeholders spells itself. -/
theorem spells_bare {statement : Statement} (apart : Apart statement.text) (params : statement.params = [])
    (bare : Bare statement.text) : statement.Spells (.bare statement) :=
  .of_apart apart params (by rw [slots_bare bare]; rfl) fun _ _ _ => fill_bare bare _

section

variable {queue : Queue}

theorem isEmptyStatement_spells : (isEmptyStatement queue).Spells (.bare (isEmptyStatement queue)) := by
  refine spells_bare ?_ rfl (by simp [isEmptyStatement])
  unfold isEmptyStatement
  exact ((Apart.sql (.of (by decide))).append (apart_table queue)).append (.sql (.of (by decide)))

theorem isDeadOrEmptyStatement_spells :
    (isDeadOrEmptyStatement queue).Spells (.bare (isDeadOrEmptyStatement queue)) := by
  refine spells_bare ?_ rfl (by simp [isDeadOrEmptyStatement, Expr.fragment, bare_predicate])
  have alive : Apart (Expr.not (.group MessageState.dead.predicate)).fragment :=
    (Apart.sql (.of (by decide))).append
      (((Apart.sql (.of (by decide))).append (apart_predicate .dead)).append (.sql (.of (by decide))))
  unfold isDeadOrEmptyStatement
  repeat' with_reducible apply Apart.append
  all_goals first | exact apart_table queue | exact alive | exact .sql (.of (by decide))

theorem apart_secondsSince (column : MessageColumn) : Apart (secondsSince column) := by
  unfold secondsSince
  have clock : Apart (sql Clock.transaction.text) := .sql (Clock.plain _)
  exact ((((Apart.sql (.of (by decide))).append clock).append (.sql (.of (by decide)))).append
    (apart_column column)).append (.sql (.of (by decide)))

theorem bare_secondsSince (column : MessageColumn) : Bare (secondsSince column) := by
  simp only [secondsSince, bare_append, bare_sql, bare_name, and_self]

theorem messageAgeStatement_spells : (messageAgeStatement queue).Spells (.bare (messageAgeStatement queue)) := by
  have ready : Apart (Expr.all (MessageState.leasable .transaction)).fragment :=
    apart_all (by simp [MessageState.leasable])
  have bare : Bare (Expr.all (MessageState.leasable .transaction)).fragment :=
    bare_all (by simp [MessageState.leasable])
  refine spells_bare ?_ rfl ?_
  · unfold messageAgeStatement
    have created := apart_secondsSince .createdAt
    have scheduled := apart_secondsSince .scheduledAt
    have id := apart_column .id
    have schedule := apart_column .scheduledAt
    repeat' with_reducible apply Apart.append
    all_goals first
      | with_reducible exact apart_table queue
      | with_reducible assumption
      | exact .sql (.of (by decide))
  · unfold messageAgeStatement
    dsimp only
    simp only [bare_append, bare_sql, bare_name, bare_secondsSince, bare, and_self]

end

/-- Every statement that an operation sends is one of its sentences, and uses the placeholders from one to the number of
its values, each for the value that belongs in its place, as long as no SQL pattern of a filter has a dollar sign. -/
theorem Operation.binds_what_it_names {engine : SweepEngine} {drawn : Bool} {queue : Queue} {operation : Operation}
    {statement : Statement} (sends : operation.Sends engine drawn queue statement)
    (free : ∀ filter, operation.filter? = some filter → filter.dollarFree) :
    ∃ sentence, operation.Says engine queue sentence ∧ statement.Spells (sentence.wording queue) := by
  obtain ⟨sentence, spoken, stated⟩ := sends.maySend
  refine ⟨sentence, spoken, ?_⟩
  cases spoken with
  | insert placed accepted =>
    obtain ⟨delay, fits, rfl⟩ := stated
    exact insertStatement_spells accepted fits
  | lease =>
    obtain ⟨visibility, fits, rfl⟩ := stated
    exact leaseStatement_spells fits free
  | askInline | lock | unlock =>
    obtain rfl := stated
    exact lockStatement_spells (.of (by decide)) _
  | sweepInline | sweepBatch =>
    obtain rfl := stated
    exact sweepStatement_spells _
  | delete =>
    obtain rfl := stated
    exact deleteStatement_spells _
  | mutate => exact mutateStatement_spells stated
  | count =>
    obtain rfl := stated
    exact countStatement_spells free
  | isEmpty =>
    obtain rfl := stated
    exact isEmptyStatement_spells
  | isDeadOrEmpty =>
    obtain rfl := stated
    exact isDeadOrEmptyStatement_spells
  | messageAge =>
    obtain rfl := stated
    exact messageAgeStatement_spells
  | pages auto =>
    obtain rfl := stated
    exact pagesStatement_spells
  | distinct found sampled =>
    obtain rfl := stated
    exact distinctStatement_spells free

def hue : FieldName := ⟨"hue", by decide +kernel⟩

def paints : Queue := (Queue.named ⟨"paints", by decide +kernel⟩).withField hue .text

/-- All of the table, but for paints that are red. -/
def notRed : DistinctOptions := ⟨.percent (Binary.ofInt 100), some (.compare hue .ne (.text "red")), none⟩

/-- Numbers and texts. -/
def shortly : Param → String
  | .value (.bigInt n) => toString n.toInt
  | .value (.text content) => "'" ++ content ++ "'"
  | _ => "?"

/-- The limit is the second value, and comes last in the text. -/
theorem hues_bound : ∃ statement,
    (Operation.distinctValues "meta_hue" 3 notRed).Sends ⟨.default, ""⟩ false paints statement ∧
      (∀ filter, notRed.filter = some filter → filter.dollarFree) ∧
      statement.text.slots = [1, 3, 2] ∧
      fillText (shown shortly (bindings 1 statement.params)) statement.text.render =
        "select meta_hue as value, count(*) as total from q_paints tablesample system (?) where meta_hue <> 'red' " ++
          "group by meta_hue limit 3" ∧
      ∃ sentence,
        (Operation.distinctValues "meta_hue" 3 notRed).Says ⟨.default, ""⟩ paints sentence ∧
        statement.Spells (sentence.wording paints) := by
  have free : ∀ filter, notRed.filter = some filter → filter.dollarFree := by
    rintro _ ⟨⟩
    rfl
  have found : paints.requireColumn "meta_hue" = .ok ⟨hue, .text⟩ := rfl
  have valid : notRed.validate = .ok () := rfl
  have sends : (Operation.distinctValues "meta_hue" 3 notRed).Sends ⟨.default, ""⟩ false paints
      (distinctStatement paints ⟨hue, .text⟩ 3 notRed (Binary.ofInt 100)) := by
    refine ⟨[], ?_⟩
    show Program.Waits (Action.distinctValues paints "meta_hue" 3 notRed) _ _
    unfold Action.distinctValues
    rw [found, valid]
    exact .inl ⟨rfl, rfl⟩
  have spells : (distinctStatement paints ⟨hue, .text⟩ 3 notRed (Binary.ofInt 100)).Spells _ :=
    distinctStatement_spells free
  exact ⟨_, sends, free, by decide +kernel, (spells.filled shortly).trans (by decide +kernel),
    Operation.binds_what_it_names sends free⟩

end LeaseQueue.Sql
