import LeaseQueue.Proofs.Queue.Columns
import LeaseQueue.Proofs.Sql.Apart
import LeaseQueue.Proofs.Sql.Calls

/-!
What the texts of statements are made of: placeholders, fixed phrases, the SQL of native filters, and names, which are
those of the schema, of a queue or of one of its fields.
-/
namespace LeaseQueue

namespace Condition

mutual

/-- The SQL of the native filters of a condition. -/
def natives : Condition → List String
  | native filter => [filter.sql]
  | all children | any children => nativesAll children
  | not child => child.natives
  | _ => []

def nativesAll : List Condition → List String
  | [] => []
  | child :: rest => child.natives ++ nativesAll rest

end

end Condition

namespace Sql

/-- The SQL that an operation passes on as it is. -/
def Operation.natives (operation : Operation) : List String := operation.filter?.elim [] Condition.natives

/-- The SQL that stands between names and placeholders. -/
def phrases : List String :=
  [" ", "(", ")", ", ", " = ", " <> ", " > ", " >= ", " < ", " <= ", " like ", " between ", " and ", " or ", "not ",
    " = ANY (", " is null", " is not null", "0", "clock_timestamp()", "current_timestamp", " + ",
    " * interval '1 millisecond'", "insert into ", " (", ") values (", ") returning ",
    "with id_to_update as ( select ", " as lease_id, ", " as lease_scheduled_at from ", " where ", " order by ", " asc",
    " asc nulls first", " asc nulls last", " desc", " desc nulls first", " desc nulls last", " limit ",
    " for update skip locked ), updated as ( update ", " set ", " - 1 where ",
    " in (select lease_id from id_to_update) returning ",
    " ) select updated.* from updated join id_to_update on updated.", " = id_to_update.lease_id order by ",
    "delete from ", ") in (select * from unnest(", "::bigint[], ", "::int[]))", "update ", " returning ", "select ",
    "count(*) filter (where ", ") as scheduled", ") as ready", ") as in_flight", ") as retry", ") as dead", " from ",
    "select not exists (select 1 from ", " limit 1)", "extract(epoch from (", " - ", "))::float8", "select (select ",
    " asc limit 1) as oldest, (select ", " desc limit 1) as newest, (select ", " asc limit 1) as oldest_ready",
    "select (pg_relation_size(", "::regclass) / current_setting('block_size')::int)::bigint",
    " as value, count(*) as total from ", " tablesample system (", " group by ", " order by total asc",
    " order by total desc", " in (select ", "SELECT pg_try_advisory_xact_lock(", "SELECT pg_try_advisory_lock(",
    "SELECT pg_advisory_unlock("]

/-- The names of tables and columns: fixed ones, and those that are made of a prefix and symbols of names. -/
inductive Known : String → Prop
  | column (column : MessageColumn) : Known column.text
  | leaseSchedule : Known "lease_scheduled_at"
  | table {rest : String} (filled : rest ≠ "") (symbols : rest.toList.all isNameSymbol) : Known ("q_" ++ rest)
  | field {rest : String} (filled : rest ≠ "") (symbols : rest.toList.all isNameSymbol) : Known ("meta_" ++ rest)

/-- A piece of a text that passes on the given SQL. -/
def Piece.Vetted (natives : List String) : Piece → Prop
  | text content => content ∈ phrases ∨ content ∈ natives
  | name identifier => Known identifier
  | placeholder _ => True

@[simp]
theorem known_table (name : QueueName) : Known name.table :=
  .table (fun empty => name.filled (by rw [empty]; rfl)) name.symbols

@[simp]
theorem known_queue (queue : Queue) : Known queue.table := known_table queue.name

@[simp]
theorem known_column (column : MessageColumn) : Known column.text := .column column

@[simp]
theorem known_field (field : FieldName) : Known field.column :=
  .field (fun empty => field.filled (by rw [empty]; rfl)) field.symbols

/-- A fragment that is made of such pieces. -/
def Vetted (natives : List String) (fragment : Fragment) : Prop := ∀ piece ∈ fragment, piece.Vetted natives

section

variable {natives : List String} {queue : Queue}

@[simp]
theorem vetted_append (first second : Fragment) :
    Vetted natives (first ++ second) ↔ Vetted natives first ∧ Vetted natives second :=
  List.forall_mem_append

@[simp]
theorem vetted_sql (content : String) : Vetted natives (sql content) ↔ content ∈ phrases ∨ content ∈ natives :=
  List.forall_mem_singleton

@[simp]
theorem vetted_name (identifier : String) : Vetted natives (name identifier) ↔ Known identifier :=
  List.forall_mem_singleton

@[simp]
theorem vetted_slot (index : Nat) : Vetted natives (slot index) := List.forall_mem_singleton.mpr trivial

theorem vetted_join {separator : String} (fixed : separator ∈ phrases) {fragments : List Fragment}
    (each : ∀ fragment ∈ fragments, Vetted natives fragment) :
    Vetted natives (Fragment.join separator fragments) := by
  induction fragments with
  | nil => exact nofun
  | cons first rest ih =>
    have later := ih fun fragment member => each fragment (List.mem_cons_of_mem _ member)
    cases rest with
    | nil => rw [Fragment.join_single]; exact each first List.mem_cons_self
    | cons second rest =>
      rw [Fragment.join_cons, vetted_append, vetted_append]
      exact ⟨each first List.mem_cons_self, (vetted_sql _).mpr (.inl fixed), later⟩

theorem vetted_names {columns : List String} (each : ∀ column ∈ columns, Known column) :
    Vetted natives (names columns) := by
  refine vetted_join (by simp [phrases]) fun fragment member => ?_
  obtain ⟨column, listed, rfl⟩ := List.mem_map.mp member
  exact (vetted_name column).mpr (each column listed)

@[simp]
theorem vetted_wallClock : Vetted natives wallClock := by
  simp [wallClock, Clock.text, phrases]

@[simp]
theorem vetted_later (start : Fragment) (index : Nat) : Vetted natives (later start index) ↔ Vetted natives start := by
  simp [later, phrases]

theorem vetted_orderTerms (order : List Order) {schedule : String} (known : Known schedule) :
    Vetted natives (orderTerms order schedule) := by
  refine vetted_join (by simp [phrases]) fun fragment member => ?_
  rcases List.mem_append.mp member with own | fixed
  · obtain ⟨term, _, rfl⟩ := List.mem_map.mp own
    refine (vetted_append _ _).mpr ⟨(vetted_name _).mpr (known_field _), (vetted_sql _).mpr (.inl ?_)⟩
    cases term.sort <;> simp [SortOrder.sql, toString, phrases]
  · rcases List.mem_pair.mp fixed with rfl | rfl
    · simp [known, phrases]
    · simp [phrases]

theorem vetted_addressed : Vetted natives addressed := by
  have columns : Vetted natives (names [MessageColumn.id.text, MessageColumn.shard.text]) :=
    vetted_names (by simp)
  simp [addressed, columns, phrases]

/-! Expressions. -/

theorem vetted_compare {column : String} (known : Known column) (relation : Relation) {right : Operand}
    (vetted : Vetted natives right.fragment) :
    Vetted natives (Expr.compare (.column column) relation right).fragment := by
  have between : s!" {relation.text} " ∈ phrases := by cases relation <;> simp [Relation.text, toString, phrases]
  show Vetted natives (name column ++ sql s!" {relation.text} " ++ right.fragment)
  simp only [vetted_append, vetted_name, vetted_sql]
  exact ⟨⟨known, .inl between⟩, vetted⟩

theorem vetted_all {parts : List Expr} (each : ∀ part ∈ parts, Vetted natives part.fragment) :
    Vetted natives (Expr.all parts).fragment := by
  refine vetted_join (by simp [phrases]) fun fragment member => ?_
  rw [fragments_eq] at member
  obtain ⟨part, listed, rfl⟩ := List.mem_map.mp member
  exact each part listed

section

open MessageState

@[simp]
theorem vetted_due (clock : Clock) : Vetted natives (due clock).fragment :=
  vetted_compare (.column _) _ (by cases clock <;> simp [Operand.fragment, Clock.text, phrases])

@[simp]
theorem vetted_pending (clock : Clock) : Vetted natives (pending clock).fragment :=
  vetted_compare (.column _) _ (by cases clock <;> simp [Operand.fragment, Clock.text, phrases])

theorem vetted_zero : Vetted natives (Operand.number 0).fragment := (vetted_sql _).mpr (.inl (by decide +kernel))

@[simp]
theorem vetted_attemptsLeft : Vetted natives attemptsLeft.fragment := vetted_compare (.column _) _ vetted_zero

@[simp]
theorem vetted_attemptsSpent : Vetted natives attemptsSpent.fragment := vetted_compare (.column _) _ vetted_zero

theorem vetted_neverLeased : Vetted natives neverLeased.fragment := by
  show Vetted natives (name _ ++ sql " is null")
  simp [phrases]

theorem vetted_leasedBefore : Vetted natives leasedBefore.fragment := by
  show Vetted natives (name _ ++ sql " is not null")
  simp [phrases]

theorem vetted_predicate (state : MessageState) : Vetted natives state.predicate.fragment := by
  cases state <;> exact vetted_all (by simp [vetted_neverLeased, vetted_leasedBefore])

theorem vetted_sweepPredicate : Vetted natives sweepPredicate.fragment := vetted_all (by simp)

end

end

end Sql

namespace Condition

open Sql (Vetted Fragment known_field vetted_compare vetted_append vetted_name vetted_sql vetted_slot vetted_join
  phrases)

variable {allowed : List String}

mutual

theorem vetted_expr : ∀ (condition : Condition) (next : Nat), (∀ content ∈ condition.natives, content ∈ allowed) →
    Vetted allowed (condition.expr next).1.fragment
  | .compare field comparison _, next, _ => vetted_compare (known_field field) _ (vetted_slot next)
  | .like field _, next, _ => vetted_compare (known_field field) _ (vetted_slot next)
  | .between field _ _ _, next, _ => by
    show Vetted allowed
      (Sql.name field.column ++ Sql.sql " between " ++ Sql.slot next ++ Sql.sql " and " ++ Sql.slot (next + 1))
    simp [phrases]
  | .among field _, next, _ => by
    show Vetted allowed (Sql.name field.column ++ Sql.sql " = ANY (" ++ Sql.slot next ++ Sql.sql ")")
    simp [phrases]
  | .isNull field, _, _ => by
    show Vetted allowed (Sql.name field.column ++ Sql.sql " is null")
    simp [phrases]
  | .isNotNull field, _, _ => by
    show Vetted allowed (Sql.name field.column ++ Sql.sql " is not null")
    simp [phrases]
  | .all children, next, passed => vetted_join (by simp [phrases]) (vetted_groups children next passed)
  | .any children, next, passed => vetted_join (by simp [phrases]) (vetted_groups children next passed)
  | .not child, next, passed => by
    show Vetted allowed (Sql.sql "not " ++ (Sql.sql "(" ++ (child.expr next).1.fragment ++ Sql.sql ")"))
    simp [vetted_expr child next passed, phrases]
  | .native filter, _, passed => (vetted_sql _).mpr (.inr (passed _ (List.mem_singleton_self _)))

theorem vetted_groups : ∀ (children : List Condition) (next : Nat),
    (∀ content ∈ nativesAll children, content ∈ allowed) →
    ∀ fragment ∈ Sql.Expr.fragments (groups next children).1, Vetted allowed fragment
  | [], _, _ => nofun
  | child :: rest, next, passed => by
    obtain ⟨first, others⟩ := List.forall_mem_append.mp passed
    intro fragment member
    rcases List.mem_cons.mp member with rfl | later
    · show Vetted allowed (Sql.sql "(" ++ (child.expr next).1.fragment ++ Sql.sql ")")
      simp [vetted_expr child next first, phrases]
    · exact vetted_groups rest _ others fragment later

end

end Condition

namespace Sql

/-! Statements. -/

section

variable {natives : List String} {queue : Queue}

theorem vetted_whereClause {filter : Option Condition} (index : Nat)
    (passed : ∀ content ∈ filter.elim [] Condition.natives, content ∈ natives) :
    Vetted natives (whereClause filter index).1 := by
  cases filter with
  | none => exact nofun
  | some condition =>
    have vetted : Vetted natives (condition.compile index).expr.fragment := condition.vetted_expr _ passed
    show Vetted natives (sql " where " ++ (condition.compile index).expr.fragment)
    simp [vetted, phrases]

theorem vetted_leaseCondition {options : ReceiveOptions}
    (passed : ∀ content ∈ options.filter.elim [] Condition.natives, content ∈ natives) :
    Vetted natives (leaseCondition options).1.fragment := by
  rw [leaseCondition_eq]
  refine vetted_all fun part member => ?_
  rcases List.mem_append.mp member with fixed | filtered
  · rcases List.mem_append.mp fixed with leasable | sharded
    · rcases List.mem_pair.mp leasable with rfl | rfl
      · exact vetted_due .wall
      · exact vetted_attemptsLeft
    · unfold shardTerms at sharded
      cases given : options.shards with
      | none => rw [given] at sharded; cases sharded
      | some shards =>
        rw [given] at sharded
        obtain rfl := List.mem_singleton.mp sharded
        show Vetted natives (name _ ++ sql " = ANY (" ++ slot 3 ++ sql ")")
        simp [phrases]
  · unfold filterTerms at filtered
    cases given : options.filter with
    | none => rw [given] at filtered; cases filtered
    | some filter =>
      rw [given] at filtered passed
      obtain rfl := List.mem_singleton.mp filtered
      show Vetted natives (sql "(" ++ (filter.expr _).1.fragment ++ sql ")")
      simp [filter.vetted_expr _ passed, phrases]

theorem vetted_leaseStatement {options : ReceiveOptions} (visibility : Param)
    (passed : ∀ content ∈ options.filter.elim [] Condition.natives, content ∈ natives) :
    Vetted natives (leaseStatement queue options visibility).text := by
  have schedule : Vetted natives (orderTerms options.order MessageColumn.scheduledAt.text) :=
    vetted_orderTerms _ (.column _)
  have leased : Vetted natives (orderTerms options.order "lease_scheduled_at") := vetted_orderTerms _ .leaseSchedule
  have returned : Vetted natives (names (leasedColumns queue)) := by
    refine vetted_names fun column member => ?_
    rcases List.mem_append.mp member with fixed | declared
    · obtain ⟨column, _, rfl⟩ := List.mem_map.mp fixed
      exact .column column
    · obtain ⟨column, _, rfl⟩ := List.mem_map.mp declared
      exact known_field column.field
  unfold leaseStatement
  simp [vetted_leaseCondition passed, schedule, leased, returned, phrases]

theorem vetted_insertStatement {message : NewMessage} (shard : Int) (delay : Param)
    (accepted : queue.checkMessage message = .ok ()) :
    Vetted natives (insertStatement queue shard message delay).text := by
  have columns : Vetted natives (names (insertedColumns ++ message.metadata.toList.map (·.1))) := by
    refine vetted_names fun column member => ?_
    rcases List.mem_append.mp member with fixed | own
    · obtain ⟨column, _, rfl⟩ := List.mem_map.mp fixed
      exact .column column
    · obtain ⟨cell, listed, rfl⟩ := List.mem_map.mp own
      obtain ⟨declared, _, same⟩ := Queue.checkMessage_columns accepted listed
      exact same ▸ known_field declared.field
  have slots : Vetted natives ((List.range' 5 message.metadata.toList.length).map fun index =>
      sql ", " ++ slot index).flatten := by
    intro piece member
    obtain ⟨fragment, listed, inside⟩ := List.mem_flatten.mp member
    obtain ⟨index, _, rfl⟩ := List.mem_map.mp listed
    have pair : Vetted natives (sql ", " ++ slot index) := by simp [phrases]
    exact pair piece inside
  unfold insertStatement
  generalize message.metadata.toList = row at columns slots ⊢
  simp [columns, slots, phrases]

theorem vetted_assignment {mutation : Mutation} {index : Nat} {written : Fragment × Param}
    (done : assignment mutation index = .ok written) : Vetted natives written.1 := by
  cases mutation with
  | addAttempts _ | setAttempts _ =>
    cases done
    simp [phrases]
  | addSchedule _ | setSchedule _ =>
    obtain rfl := checkMillis_with done
    simp [phrases]

theorem vetted_assignments {mutations : List Mutation} {index : Nat} {written : List (Fragment × Param)}
    (done : assignments index mutations = .ok written) : ∀ fragment ∈ written.map (·.1), Vetted natives fragment := by
  induction mutations generalizing index written with
  | nil =>
    cases done
    exact nofun
  | cons mutation rest ih =>
    obtain ⟨first, others, rfl, here, behind⟩ := assignments_cons done
    exact List.forall_mem_cons.mpr ⟨vetted_assignment here, ih behind⟩

theorem vetted_mutateStatement {mutations : List Mutation} {ids : List MessageId} {statement : Statement}
    (stated : mutateStatement queue mutations ids = .ok statement) : Vetted natives statement.text := by
  obtain ⟨written, done, text, _⟩ := mutateStatement_ok stated
  have all : Vetted natives (Fragment.join ", " (written.map (·.1))) :=
    vetted_join (by simp [phrases]) (vetted_assignments done)
  have returned : Vetted natives (names mutatedColumns) := vetted_names (by simp [mutatedColumns])
  rw [text]
  simp [all, vetted_addressed, returned, phrases]

theorem vetted_deleteStatement (ids : List MessageId) : Vetted natives (deleteStatement queue ids).text := by
  simp [deleteStatement, vetted_addressed, phrases]

theorem vetted_countStatement {filter : Option Condition}
    (passed : ∀ content ∈ filter.elim [] Condition.natives, content ∈ natives) :
    Vetted natives (countStatement queue filter).text := by
  have counts : Vetted natives (Fragment.join ", " countTerms) := by
    refine vetted_join (by simp [phrases]) fun fragment member => ?_
    obtain ⟨state, _, rfl⟩ := List.mem_map.mp member
    have named : s!") as {state.name}" ∈ phrases := by cases state <;> simp [MessageState.name, toString, phrases]
    simp only [vetted_append, vetted_sql, vetted_predicate, named, true_or, and_true]
    simp [phrases]
  rw [countStatement_text]
  simp [counts, vetted_whereClause 1 passed, phrases]

theorem vetted_distinctStatement {column : MetaColumn} {limit : Nat} {options : DistinctOptions} {share : Single}
    (passed : ∀ content ∈ options.filter.elim [] Condition.natives, content ∈ natives) :
    Vetted natives (distinctStatement queue column limit options share).text := by
  have sorted : Vetted natives (countOrder options.order) := by
    cases options.order with
    | none => exact nofun
    | some order => cases descending : order.isDescending <;> simp [countOrder, descending, phrases]
  rw [distinctStatement_text]
  simp [vetted_whereClause 3 passed, sorted, phrases]

theorem vetted_sweepStatement (rows : Nat) : Vetted natives (sweepStatement queue.name rows).text := by
  simp [sweepStatement, vetted_sweepPredicate, phrases]

theorem vetted_isEmptyStatement : Vetted natives (isEmptyStatement queue).text := by
  simp [isEmptyStatement, phrases]

theorem vetted_isDeadOrEmptyStatement : Vetted natives (isDeadOrEmptyStatement queue).text := by
  simp [isDeadOrEmptyStatement, Expr.fragment, vetted_predicate, phrases]

theorem vetted_messageAgeStatement : Vetted natives (messageAgeStatement queue).text := by
  have ready : Vetted natives (Expr.all (MessageState.leasable .transaction)).fragment :=
    vetted_all (by simp [MessageState.leasable])
  have since (column : MessageColumn) : Vetted natives (secondsSince column) := by
    simp [secondsSince, Clock.text, phrases]
  unfold messageAgeStatement
  dsimp only
  simp [ready, since, phrases]

theorem vetted_pagesStatement : Vetted natives (pagesStatement queue).text := by
  simp [pagesStatement, phrases]

end

/-- The statements of an operation are made of fixed phrases, known names, placeholders and the SQL that the operation
passes on. -/
theorem Operation.Says.vetted {engine : SweepEngine} {queue : Queue} {operation : Operation} {sentence : Sentence}
    (spoken : operation.Says engine queue sentence) {statement : Statement} (stated : sentence.Is queue statement) :
    Vetted operation.natives statement.text := by
  cases spoken with
  | insert placed accepted =>
    obtain ⟨delay, _, rfl⟩ := stated
    exact vetted_insertStatement _ _ accepted
  | lease =>
    obtain ⟨visibility, _, rfl⟩ := stated
    exact vetted_leaseStatement _ fun _ => id
  | askInline | lock | unlock =>
    obtain rfl := stated
    simp [lockStatement, toString, phrases]
  | sweepInline | sweepBatch =>
    obtain rfl := stated
    exact vetted_sweepStatement _
  | delete =>
    obtain rfl := stated
    exact vetted_deleteStatement _
  | mutate => exact vetted_mutateStatement stated
  | count =>
    obtain rfl := stated
    exact vetted_countStatement fun _ => id
  | isEmpty =>
    obtain rfl := stated
    exact vetted_isEmptyStatement
  | isDeadOrEmpty =>
    obtain rfl := stated
    exact vetted_isDeadOrEmptyStatement
  | messageAge =>
    obtain rfl := stated
    exact vetted_messageAgeStatement
  | pages auto =>
    obtain rfl := stated
    exact vetted_pagesStatement
  | distinct found sampled =>
    obtain rfl := stated
    exact vetted_distinctStatement fun _ => id

end Sql

end LeaseQueue
