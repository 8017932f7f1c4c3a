import LeaseQueue.Lifecycle
import LeaseQueue.Proofs.Condition.Binding
import LeaseQueue.Sql.MessageStatements

/-!
Fragments whose texts may stand side by side. A text that has no dollar sign and begins with no digit ends a
placeholder before it, so that the text of a statement is read part by part.
-/
namespace LeaseQueue

namespace Sql

/-! Texts that may stand behind a placeholder. -/

/-- Text without a dollar sign that may stand behind a placeholder. -/
def Plain (content : String) : Prop := '$' ∉ content.toList ∧ Detached content.toList

theorem Plain.of {content : List Char} (clear : '$' ∉ content ∧ Detached content) :
    Plain (String.ofList content) := by
  unfold Plain
  rwa [String.toList_ofList]

theorem Plain.marks {content : String} (clear : Plain content) : Sql.marks content.toList = content.toList.map .char :=
  (ReadsAs.plain clear.1).marks

theorem Plain.append {first second : String} (front : Plain first) (back : Plain second) : Plain (first ++ second) := by
  unfold Plain Detached at *
  rw [String.toList_append]
  cases begins : first.toList <;> rw [begins] at front <;> simp_all

theorem Breaks.detached {rest : List Char} (breaks : Breaks rest) : Detached rest := by
  rcases breaks with rfl | ⟨more, rfl | rfl⟩ <;> simp [Detached]

end Sql

theorem FieldName.plain (field : FieldName) : Sql.Plain field.column := by
  refine ⟨field.dollar_not_mem, ?_⟩
  unfold FieldName.column metaColumnPrefix
  simp [Sql.Detached]

theorem QueueName.plain (name : QueueName) : Sql.Plain name.table := by
  unfold Sql.Plain QueueName.table queueTablePrefix
  rw [String.toList_append]
  constructor
  · intro member
    rcases List.mem_append.mp member with front | inside
    · simp at front
    · exact absurd (List.all_eq_true.mp name.symbols _ inside) (by decide)
  · simp [Sql.Detached]

theorem MessageColumn.plain (column : MessageColumn) : Sql.Plain column.text := by
  cases column <;> exact .of (by decide)

theorem SortOrder.plain (sort : SortOrder) : Sql.Plain sort.sql := by
  cases sort <;> exact .of (by decide)

theorem MessageState.plain (state : MessageState) : Sql.Plain state.name := by
  cases state <;> exact .of (by decide)

namespace Sql

theorem Clock.plain (clock : Clock) : Plain clock.text := by
  cases clock <;> exact .of (by decide)

theorem Relation.plain (relation : Relation) : Plain relation.text := by
  cases relation <;> exact .of (by decide)

namespace Fragment

/-- The text of the fragment is read as the fragment itself, also behind a placeholder. -/
structure Apart (fragment : Fragment) : Prop where
  reads : Sql.marks fragment.letters = fragment.marks
  detached : Detached fragment.letters

variable {first second : Fragment}

namespace Apart

theorem nil : Apart [] where
  reads := by rw [letters_eq, List.flatMap_nil, Sql.marks]; rfl
  detached := by
    rw [letters_eq]
    intro c found
    cases found

theorem append (earlier : Apart first) (later : Apart second) : Apart (first ++ second) where
  reads := by
    rw [letters_append, Fragment.marks_append, Sql.marks_append later.detached, earlier.reads, later.reads]
  detached := by
    have front := earlier.detached
    have back := later.detached
    unfold Detached at front back ⊢
    rw [letters_append, List.head?_append]
    intro c head
    cases begins : first.letters.head? with
    | none => exact back c (by simpa [begins] using head)
    | some d => exact front c (by simpa [begins] using head)

theorem sql {content : String} (clear : Plain content) : Apart (sql content) where
  reads := by rw [letters_sql, marks_sql, clear.marks]
  detached := by rw [letters_sql]; exact clear.2

theorem name {identifier : String} (clear : Plain identifier) : Apart (name identifier) where
  reads := by rw [letters_name, marks_name, clear.marks]
  detached := by rw [letters_name]; exact clear.2

theorem slot (index : Nat) : Apart (slot index) where
  reads := (Legible.slot index).marks
  detached := by simp [Detached]

/-- Behind text that holds it off, a fragment may begin with anything. -/
theorem sql_append {content : String} (clear : Plain content) (filled : content ≠ "") (legible : Legible second) :
    Apart (Sql.sql content ++ second) where
  reads := (legible.afterSql clear.1).marks
  detached := by
    have detached := clear.2
    unfold Detached at detached ⊢
    rwa [letters_append, letters_sql, List.head?_append_of_ne_nil _ (by simpa using filled)]

theorem join {separator : String} (clear : Plain separator) {fragments : List Fragment}
    (each : ∀ fragment ∈ fragments, Apart fragment) : Apart (join separator fragments) := by
  induction fragments with
  | nil => exact nil
  | cons first rest ih =>
    have later := ih fun fragment member => each fragment (List.mem_cons_of_mem _ member)
    cases rest with
    | nil => rw [join_single]; exact each first List.mem_cons_self
    | cons second rest =>
      rw [join_cons]
      exact (each first List.mem_cons_self).append ((sql clear).append later)

theorem flatten {fragments : List Fragment} (each : ∀ fragment ∈ fragments, Apart fragment) :
    Apart fragments.flatten := by
  induction fragments with
  | nil => exact nil
  | cons first rest ih =>
    have later := ih fun fragment member => each fragment (List.mem_cons_of_mem _ member)
    rw [List.flatten_cons]
    exact (each first List.mem_cons_self).append later

theorem legible (apart : Apart first) : Legible first := by
  intro rest breaks
  rw [Sql.marks_append breaks.detached, apart.reads]

end Apart

end Fragment

open Fragment (Apart)

/-! Parts of statements. -/

theorem apart_table (queue : Queue) : Apart (name queue.table) := .name queue.name.plain

theorem apart_column (column : MessageColumn) : Apart (name column.text) := .name column.plain

theorem apart_names {columns : List String} (each : ∀ column ∈ columns, Plain column) : Apart (names columns) := by
  refine .join (.of (by decide)) fun fragment member => ?_
  obtain ⟨column, listed, rfl⟩ := List.mem_map.mp member
  exact .name (each column listed)

theorem apart_wallClock : Apart wallClock := .sql (Clock.plain .wall)

theorem apart_later {start : Fragment} (apart : Apart start) (index : Nat) : Apart (later start index) :=
  ((apart.append (.sql (.of (by decide)))).append (.slot index)).append (.sql (.of (by decide)))

theorem apart_orderTerms (order : List Order) {schedule : String} (clear : Plain schedule) :
    Apart (orderTerms order schedule) := by
  refine .join (.of (by decide)) fun fragment member => ?_
  have ascending {column : String} (clear : Plain column) : Apart (name column ++ sql " asc") :=
    (Apart.name clear).append (.sql (.of (by decide)))
  rcases List.mem_append.mp member with own | fixed
  · obtain ⟨term, _, rfl⟩ := List.mem_map.mp own
    exact (Apart.name term.field.plain).append (.sql ((Plain.of (by decide)).append term.sort.plain))
  · rcases List.mem_pair.mp fixed with rfl | rfl
    · exact ascending clear
    · exact ascending (MessageColumn.plain .createdAt)

theorem apart_addressed : Apart addressed := by
  have columns : Apart (names [MessageColumn.id.text, MessageColumn.shard.text]) :=
    apart_names (by simp [MessageColumn.plain])
  unfold addressed
  repeat' with_reducible apply Apart.append
  all_goals first | exact columns | exact .slot _ | exact .sql (.of (by decide))

/-! Expressions about the life of a message. -/

theorem fragments_eq (parts : List Expr) : Expr.fragments parts = parts.map Expr.fragment := by
  induction parts with
  | nil => rfl
  | cons part rest ih => rw [Expr.fragments, ih, List.map_cons]

theorem apart_all {parts : List Expr} (each : ∀ part ∈ parts, Apart part.fragment) :
    Apart (Expr.all parts).fragment := by
  refine .join (.of (by decide)) fun fragment member => ?_
  rw [fragments_eq] at member
  obtain ⟨part, listed, rfl⟩ := List.mem_map.mp member
  exact each part listed

theorem apart_compare (column : MessageColumn) (relation : Relation) {right : Operand}
    (legible : Fragment.Legible right.fragment) :
    Apart (Expr.compare (.column column.text) relation right).fragment := by
  have between : Plain (toString " " ++ toString relation.text ++ toString " ") :=
    ((Plain.of (by decide)).append relation.plain).append (.of (by decide))
  show Apart (name column.text ++ sql s!" {relation.text} " ++ right.fragment)
  rw [List.append_assoc]
  refine (apart_column column).append (.sql_append between ?_ legible)
  cases relation <;> simp [Relation.text, toString]

theorem legible_clock (clock : Clock) : Fragment.Legible (Operand.clock clock).fragment :=
  (Apart.sql clock.plain).legible

theorem legible_zero : Fragment.Legible (Operand.number 0).fragment := .sql (by decide)

section

open MessageState

@[simp]
theorem apart_due (clock : Clock) : Apart (due clock).fragment := apart_compare _ _ (legible_clock clock)

@[simp]
theorem apart_pending (clock : Clock) : Apart (pending clock).fragment := apart_compare _ _ (legible_clock clock)

@[simp]
theorem apart_attemptsLeft : Apart attemptsLeft.fragment := apart_compare _ _ legible_zero

@[simp]
theorem apart_attemptsSpent : Apart attemptsSpent.fragment := apart_compare _ _ legible_zero

@[simp]
theorem apart_neverLeased : Apart neverLeased.fragment :=
  (apart_column .processingAt).append (.sql (.of (by decide)))

@[simp]
theorem apart_leasedBefore : Apart leasedBefore.fragment :=
  (apart_column .processingAt).append (.sql (.of (by decide)))

theorem apart_predicate (state : MessageState) : Apart state.predicate.fragment := by
  cases state <;> exact apart_all (by simp)

theorem apart_sweepPredicate : Apart sweepPredicate.fragment := apart_all (by simp)

end

/-! Filters. -/

section

variable {filter : Option Condition} {index : Nat}

/-- The values of a filter, if there is one. -/
def filterValues (filter : Option Condition) : List Param := filter.elim [] Condition.params

theorem compile_expr (condition : Condition) (positive : 0 < index) :
    (condition.compile index).expr = (condition.expr index).1 := by
  unfold Condition.compile firstPlaceholder
  rw [Nat.max_eq_left positive]

theorem apart_whereClause (free : ∀ condition, filter = some condition → condition.dollarFree) :
    Apart (whereClause filter index).1 := by
  cases filter with
  | none => exact .nil
  | some condition =>
    exact .sql_append (.of (by decide)) (by simp) (Condition.legible_expr condition _ (free condition rfl))

theorem whereClause_params : (whereClause filter index).2 = filterValues filter := by
  cases filter <;> rfl

theorem slots_whereClause (positive : 0 < index) :
    (whereClause filter index).1.slots = List.range' index (filterValues filter).length := by
  cases filter with
  | none => rfl
  | some condition =>
    show Fragment.slots (sql " where " ++ (condition.compile index).expr.fragment) = _
    rw [compile_expr condition positive, Fragment.slots_append, Fragment.slots_sql, Condition.slots_expr]
    rfl

end

/-! Reports. -/

/-- The terms that count the messages in each state. -/
def countTerms : List Fragment :=
  MessageState.all.map fun state =>
    sql "count(*) filter (where " ++ state.predicate.fragment ++ sql s!") as {state.name}"

theorem apart_countTerms {term : Fragment} (member : term ∈ countTerms) : Apart term := by
  obtain ⟨state, _, rfl⟩ := List.mem_map.mp member
  exact ((Apart.sql (.of (by decide))).append (apart_predicate state)).append
    (.sql ((Plain.of (by decide)).append state.plain))

theorem countStatement_text {queue : Queue} {filter : Option Condition} : (countStatement queue filter).text =
    sql "select " ++ Fragment.join ", " countTerms ++ sql " from " ++ name queue.table ++
      (whereClause filter 1).1 := rfl

/-- How values are sorted by their counts. -/
def countOrder (order : Option SortOrder) : Fragment :=
  match order with
  | none => []
  | some order => sql (" order by total " ++ if order.isDescending then "desc" else "asc")

theorem apart_countOrder (order : Option SortOrder) : Apart (countOrder order) := by
  cases order with
  | none => exact .nil
  | some order =>
    refine .sql ((Plain.of (by decide)).append ?_)
    split <;> exact .of (by decide)

theorem distinctStatement_text {queue : Queue} {column : MetaColumn} {limit : Nat} {options : DistinctOptions}
    {share : Single} : (distinctStatement queue column limit options share).text =
      sql "select " ++ name column.field.column ++ sql " as value, count(*) as total from " ++ name queue.table ++
        sql " tablesample system (" ++ slot 1 ++ sql ")" ++ (whereClause options.filter 3).1 ++ sql " group by " ++
        name column.field.column ++ countOrder options.order ++ sql " limit " ++ slot 2 := rfl

/-! What a lease asks of a row. -/

section

variable {options : ReceiveOptions}

/-- The values of a receive behind its limit and its timeout: the shards, if they are given, and then the filter's. -/
def leaseValues (options : ReceiveOptions) : List Param :=
  (options.shards.map Param.ints).toList ++ filterValues options.filter

/-- The shards of a receive as a term, with the number of the placeholder behind it. -/
def shardTerms (options : ReceiveOptions) : List Expr × Nat :=
  match options.shards with
  | none => ([], 3)
  | some _ => ([.among (.column MessageColumn.shard.text) 3], 4)

def filterTerms (options : ReceiveOptions) (next : Nat) : List Expr :=
  options.filter.elim [] fun filter => [.group (filter.expr next).1]

theorem leaseCondition_eq : leaseCondition options =
    (.all (MessageState.leasable .wall ++ (shardTerms options).1 ++ filterTerms options (shardTerms options).2),
      leaseValues options) := by
  obtain ⟨limit, visibility, filter, order, shards⟩ := options
  cases shards <;> cases filter <;> rfl

theorem apart_shardTerms {part : Expr} (member : part ∈ (shardTerms options).1) : Apart part.fragment := by
  unfold shardTerms at member
  cases given : options.shards with
  | none => rw [given] at member; cases member
  | some shards =>
    rw [given] at member
    obtain rfl := List.mem_singleton.mp member
    exact (((apart_column .shard).append (.sql (.of (by decide)))).append (.slot 3)).append (.sql (.of (by decide)))

theorem apart_filterTerms (free : ∀ filter, options.filter = some filter → filter.dollarFree) {next : Nat}
    {part : Expr} (member : part ∈ filterTerms options next) : Apart part.fragment := by
  unfold filterTerms at member
  cases given : options.filter with
  | none => rw [given] at member; cases member
  | some filter =>
    rw [given] at member
    obtain rfl := List.mem_singleton.mp member
    have inner : Apart (sql "(" ++ (filter.expr next).1.fragment) :=
      .sql_append (.of (by decide)) (by simp) (Condition.legible_expr filter _ (free filter given))
    exact inner.append (.sql (.of (by decide)))

theorem apart_leaseCondition (free : ∀ filter, options.filter = some filter → filter.dollarFree) :
    Apart (leaseCondition options).1.fragment := by
  rw [leaseCondition_eq]
  refine apart_all fun part member => ?_
  rcases List.mem_append.mp member with fixed | filtered
  · rcases List.mem_append.mp fixed with leasable | sharded
    · rcases List.mem_pair.mp leasable with rfl | rfl
      · exact apart_due .wall
      · exact apart_attemptsLeft
    · exact apart_shardTerms sharded
  · exact apart_filterTerms free filtered

theorem slots_leaseCondition :
    (leaseCondition options).1.fragment.slots = List.range' 3 (leaseValues options).length := by
  rw [leaseCondition_eq]
  refine (Fragment.slots_join _ _).trans ?_
  rw [fragments_eq]
  unfold leaseValues shardTerms filterTerms filterValues
  cases options.shards <;> cases options.filter <;>
    simp [-String.reduceToList, MessageState.leasable, MessageState.due, MessageState.attemptsLeft, Expr.fragment,
      Operand.fragment, Condition.slots_expr, List.range'_succ]

end

end Sql

end LeaseQueue
