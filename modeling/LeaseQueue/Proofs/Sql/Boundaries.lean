import LeaseQueue.Condition.Truth
import LeaseQueue.Memory.Table
import LeaseQueue.Proofs.Sql.Tokens
import LeaseQueue.Sql.MessageStatements
import Mathlib.Algebra.Ring.Nat

/-!
The boundaries between the states of a message, as the statements draw them and as the memory store draws them. The
tests of the statements are read from their text and evaluated on a row, with every clock at one instant.
-/
namespace LeaseQueue.Sql

/-- What a test compares. -/
inductive Item
  | column (column : MessageColumn)
  | clock (clock : Clock)
  | number (n : Nat)
deriving DecidableEq, Repr

inductive Word
  | and
  | is
  | not
  | null
  | relation (relation : Relation)
  | item (item : Item)
deriving DecidableEq, Repr

/-- The words that are written in one way only. -/
def fixedWords : List (String × Word) :=
  [("and", .and), ("is", .is), ("not", .not), ("null", .null)] ++
    [Clock.transaction, .wall].map (fun clock => (clock.text, .item (.clock clock))) ++
    MessageColumn.all.map (fun column => (column.text, .item (.column column)))

def word? (content : List Char) : Option Word :=
  match fixedWords.find? fun entry => entry.1.toList = content with
  | some (_, word) => some word
  | none =>
    if content ≠ [] ∧ content.all Char.isDigit then some (.item (.number (Nat.ofDigitChars 10 content 0)))
    else (relation? content).map .relation

/-- A test of a row. -/
inductive Test
  | compare (left : Item) (relation : Relation) (right : Item)
  | isNull (subject : Item)
  | isNotNull (subject : Item)
deriving DecidableEq, Repr

def test? : List Word → Option Test
  | [.item left, .relation relation, .item right] => some (.compare left relation right)
  | [.item subject, .is, .null] => some (.isNull subject)
  | [.item subject, .is, .not, .null] => some (.isNotNull subject)
  | _ => none

/-- Reads a text as tests with `and` between them. -/
def tests? (text : String) : Option (List Test) := do
  let words ← (text.toList.splitOn ' ').mapM word?
  (words.splitOn .and).mapM test?

/-- The value of an item that is not null. -/
inductive Scalar
  | time (instant : Instant)
  | number (n : Int)
deriving DecidableEq, Repr

/-- Whether two numbers stand in a relation; numbers are like no pattern. -/
def Relation.meets? : Relation → Int → Int → Option Bool
  | eq, x, y => some (x == y)
  | ne, x, y => some (x != y)
  | gt, x, y => some (x > y)
  | ge, x, y => some (x ≥ y)
  | lt, x, y => some (x < y)
  | le, x, y => some (x ≤ y)
  | like, _, _ => none

/-- Values of different types cannot be compared. -/
def Scalar.compare? (relation : Relation) : Scalar → Scalar → Option Bool
  | time x, time y => relation.meets? x y
  | number x, number y => relation.meets? x y
  | _, _ => none

section

variable (row : StoredMessage) (now : Instant)

/-- The value of an item on a row, null inside; a payload is neither a time nor a number. -/
def Item.value? : Item → Option (Option Scalar)
  | column .id => some (some (.number row.id))
  | column .shard => some (some (.number row.shard))
  | column .createdAt => some (some (.time row.createdAt))
  | column .scheduledAt => some (some (.time row.scheduledAt))
  | column .processingAt => some (row.processingAt.map .time)
  | column .remainingAttempts => some (some (.number row.remaining))
  | column .payload => none
  | clock _ => some (some (.time now))
  | number n => some (some (.number n))

/-- A comparison with null is unknown. -/
def Test.truth? : Test → Option Truth
  | compare left relation right => do
    match ← left.value? row now, ← right.value? row now with
    | some x, some y => some (some (← x.compare? relation y))
    | _, _ => some none
  | isNull subject => do some (some (← subject.value? row now).isNone)
  | isNotNull subject => do some (some (← subject.value? row now).isSome)

def allTruth? : List Test → Option Truth
  | [] => some (some true)
  | test :: rest => do some ((← test.truth? row now).and (← allTruth? rest))

/-- What a text says of a row. -/
def textTruth? (text : String) : Option Truth := (tests? text).bind (allTruth? row now)

end

/-- The number of rows that a text is true of. -/
def countWhere (rows : List StoredMessage) (now : Instant) (text : String) : Nat :=
  rows.countP fun row => textTruth? row now text = some (some true)

/-! The tests that the boundaries are made of. -/

namespace Test

def due (clock : Clock) : Test := .compare (.column .scheduledAt) .le (.clock clock)

def pending (clock : Clock) : Test := .compare (.column .scheduledAt) .gt (.clock clock)

def attemptsLeft : Test := .compare (.column .remainingAttempts) .gt (.number 0)

def attemptsSpent : Test := .compare (.column .remainingAttempts) .le (.number 0)

def neverLeased : Test := .isNull (.column .processingAt)

def leasedBefore : Test := .isNotNull (.column .processingAt)

variable (row : StoredMessage) (now : Instant)

theorem due_truth (clock : Clock) : (due clock).truth? row now = some (some (decide (row.scheduledAt ≤ now))) := rfl

theorem pending_truth (clock : Clock) :
    (pending clock).truth? row now = some (some !decide (row.scheduledAt ≤ now)) := by
  have later : decide (row.scheduledAt > now) = !decide (row.scheduledAt ≤ now) := by
    rw [← decide_not]
    exact decide_eq_decide.mpr Int.not_le.symm
  rw [← later]
  rfl

theorem attemptsLeft_truth : attemptsLeft.truth? row now = some (some !decide (row.remaining ≤ 0)) := by
  have left : decide (row.remaining > 0) = !decide (row.remaining ≤ 0) := by
    rw [← decide_not]
    exact decide_eq_decide.mpr Int.not_le.symm
  rw [← left]
  rfl

theorem attemptsSpent_truth : attemptsSpent.truth? row now = some (some (decide (row.remaining ≤ 0))) := rfl

theorem neverLeased_truth : neverLeased.truth? row now = some (some !row.processingAt.isSome) := by
  cases leased : row.processingAt <;> simp [neverLeased, truth?, Item.value?, leased]

theorem leasedBefore_truth : leasedBefore.truth? row now = some (some row.processingAt.isSome) := by
  cases leased : row.processingAt <;> simp [leasedBefore, truth?, Item.value?, leased]

/-- The tests of a state. -/
def ofState : MessageState → List Test
  | .scheduled => [neverLeased, pending .transaction]
  | .ready => [neverLeased, due .transaction, attemptsLeft]
  | .inFlight => [leasedBefore, pending .transaction]
  | .retry => [leasedBefore, due .transaction, attemptsLeft]
  | .dead => [due .transaction, attemptsSpent]

end Test

/-! The texts of the statements are made of these tests. -/

theorem tests_of_state (state : MessageState) : tests? state.predicate.text = some (Test.ofState state) := by
  cases state <;> decide +kernel

theorem tests_of_sweep : tests? MessageState.sweepPredicate.text = some [.attemptsSpent, .due .wall] := by
  decide +kernel

theorem tests_of_leasable (clock : Clock) :
    tests? (Expr.all (MessageState.leasable clock)).text = some [.due clock, .attemptsLeft] := by
  cases clock <;> decide +kernel

example : tests? "remaining_attempts > scheduled_at and not" = none := by decide +kernel

section

variable (row : StoredMessage) (now : Instant)

theorem textTruth_of {text : String} {tests : List Test} (read : tests? text = some tests) :
    textTruth? row now text = allTruth? row now tests := by
  rw [textTruth?, read]
  rfl

/-- Where no test is unknown, their conjunction is known. -/
theorem allTruth_cons {test : Test} {rest : List Test} {x y : Bool} (first : test.truth? row now = some (some x))
    (others : allTruth? row now rest = some (some y)) : allTruth? row now (test :: rest) = some (some (x && y)) := by
  rw [allTruth?, first, others]
  cases x <;> cases y <;> rfl

theorem allTruth_pair {first second : Test} {x y : Bool} (one : first.truth? row now = some (some x))
    (two : second.truth? row now = some (some y)) : allTruth? row now [first, second] = some (some (x && y)) := by
  have nothing : allTruth? row now [] = some (some true) := rfl
  have last := allTruth_cons row now two nothing
  rw [Bool.and_true] at last
  exact allTruth_cons row now one last

theorem leasable_truth (clock : Clock) : allTruth? row now [.due clock, .attemptsLeft] =
    some (some (decide (row.scheduledAt ≤ now) && !decide (row.remaining ≤ 0))) :=
  allTruth_pair row now (Test.due_truth row now clock) (Test.attemptsLeft_truth row now)

/-- The states by what decides them: whether the message was ever leased, whether it is due, and whether its attempts
are used up. -/
theorem decide_state (state : MessageState) :
    let leased := row.processingAt.isSome
    let due := decide (row.scheduledAt ≤ now)
    let spent := decide (row.remaining ≤ 0)
    decide (row.state now = state) =
      match state with
      | .scheduled => !leased && !due
      | .ready => !leased && (due && !spent)
      | .inFlight => leased && !due
      | .retry => leased && (due && !spent)
      | .dead => due && spent := by
  unfold StoredMessage.state MessageState.classify
  by_cases due : row.scheduledAt ≤ now <;> by_cases spent : row.remaining ≤ 0 <;>
    cases row.processingAt.isSome <;> cases state <;> simp [due, spent]

/-- The text of a state is true of the rows in this state and false of all others. -/
theorem textTruth_state (state : MessageState) :
    textTruth? row now state.predicate.text = some (some (decide (row.state now = state))) := by
  rw [textTruth_of row now (tests_of_state state), decide_state]
  have never := Test.neverLeased_truth row now
  have before := Test.leasedBefore_truth row now
  have pending := Test.pending_truth row now .transaction
  have leasable := leasable_truth row now .transaction
  cases state with
  | scheduled => exact allTruth_pair row now never pending
  | ready => exact allTruth_cons row now never leasable
  | inFlight => exact allTruth_pair row now before pending
  | retry => exact allTruth_cons row now before leasable
  | dead => exact allTruth_pair row now (Test.due_truth row now _) (Test.attemptsSpent_truth row now)

theorem isSwept_eq : row.isSwept now = (row.state now == .dead) := by
  rw [beq_eq_decide, decide_state]
  exact Bool.and_comm _ _

theorem isReceivable_eq :
    (row.state now).isReceivable = (decide (row.scheduledAt ≤ now) && !decide (row.remaining ≤ 0)) := by
  unfold StoredMessage.state MessageState.classify
  by_cases due : row.scheduledAt ≤ now <;> by_cases spent : row.remaining ≤ 0 <;>
    cases row.processingAt.isSome <;> simp [due, spent, MessageState.isReceivable]

theorem textTruth_sweep : textTruth? row now MessageState.sweepPredicate.text = some (some (row.isSwept now)) := by
  rw [textTruth_of row now tests_of_sweep]
  exact allTruth_pair row now (Test.attemptsSpent_truth row now) (Test.due_truth row now .wall)

theorem textTruth_leasable (clock : Clock) :
    textTruth? row now (Expr.all (MessageState.leasable clock)).text = some (some (row.state now).isReceivable) := by
  rw [textTruth_of row now (tests_of_leasable clock), isReceivable_eq]
  exact leasable_truth row now clock

/-- All texts and functions draw the same boundaries on a row. -/
structure Boundaries : Prop where
  states : ∀ state : MessageState,
    textTruth? row now state.predicate.text = some (some (decide (state = row.state now)))
  swept : textTruth? row now MessageState.sweepPredicate.text = some (some (row.isSwept now))
  dead : row.isSwept now = (row.state now == .dead)
  leased : textTruth? row now (Expr.all (MessageState.leasable .wall)).text =
    some (some (row.state now).isReceivable)
  aged : textTruth? row now (Expr.all (MessageState.leasable .transaction)).text =
    some (some (row.state now).isReceivable)
  apart : ¬ ((row.state now).isReceivable ∧ row.isSwept now)

theorem boundaries : Boundaries row now where
  states state := by
    rw [textTruth_state]
    exact congrArg (some <| some ·) (decide_eq_decide.mpr eq_comm)
  swept := textTruth_sweep row now
  dead := isSwept_eq row now
  leased := textTruth_leasable row now .wall
  aged := textTruth_leasable row now .transaction
  apart := by
    rintro ⟨receivable, swept⟩
    rw [isSwept_eq, beq_iff_eq] at swept
    rw [swept] at receivable
    cases receivable

end

/-! Counts. -/

theorem get_record (counts : MessageCounts) (state other : MessageState) :
    (counts.record state).get other = counts.get other + if state = other then 1 else 0 := by
  cases state <;> cases other <;> simp [MessageCounts.record, MessageCounts.get]

theorem get_ofStates (states : List MessageState) (state : MessageState) :
    (MessageCounts.ofStates states).get state = states.count state := by
  have folded (counts : MessageCounts) : (states.foldl MessageCounts.record counts).get state =
      counts.get state + states.count state := by
    induction states generalizing counts with
    | nil => simp
    | cons first rest ih =>
      rw [List.foldl_cons, ih, get_record, List.count_cons]
      by_cases same : first = state
      · rw [if_pos same, if_pos (beq_iff_eq.mpr same)]
        omega
      · rw [if_neg same, if_neg (fun equal => same (beq_iff_eq.mp equal))]
        omega
  have nothing : MessageCounts.zero.get state = 0 := by cases state <;> rfl
  refine (folded .zero).trans ?_
  rw [nothing, Int.zero_add]

/-- Every message is in one state. -/
theorem sum_count (states : List MessageState) : (MessageState.all.map fun state => states.count state).sum =
    states.length := by
  induction states with
  | nil => rfl
  | cons first rest ih =>
    rw [List.length_cons, ← ih]
    cases first <;> simp [MessageState.all] <;> omega

theorem total_ofStates (states : List MessageState) : (MessageCounts.ofStates states).total = states.length := by
  have parts (counts : MessageCounts) : counts.total = (MessageState.all.map counts.get).sum := by
    simp [MessageState.all, MessageCounts.total, MessageCounts.get]
    omega
  have whole := sum_count states
  rw [parts]
  simp only [MessageState.all, List.map_cons, List.map_nil, List.sum_cons, List.sum_nil, get_ofStates] at whole ⊢
  omega

theorem countWhere_state (rows : List StoredMessage) (now : Instant) (state : MessageState) :
    countWhere rows now state.predicate.text = (rows.map fun row => row.state now).count state := by
  rw [List.count_eq_countP, List.countP_map]
  refine List.countP_congr fun row _ => ?_
  rw [textTruth_state]
  simp

theorem passing_none (rows : List StoredMessage) : Table.passing none rows = .ok rows := by
  induction rows with
  | nil => rfl
  | cons row rest ih =>
    rw [Table.passing, ih]
    rfl

/-- The statement and the store count the messages of a table alike, and each message once. -/
structure CountsAlike (table : Table) (now : Instant) : Prop where
  counts : ∃ counts, table.count now none = .ok counts ∧ counts.total = table.rows.length ∧
    ∀ state : MessageState, counts.get state = countWhere table.rows now state.predicate.text
  once : (MessageState.all.map fun state => countWhere table.rows now state.predicate.text).sum = table.rows.length

theorem countsAlike (table : Table) (now : Instant) : CountsAlike table now := by
  constructor
  · refine ⟨.ofStates (table.rows.map fun row => row.state now), ?_, ?_, fun state => ?_⟩
    · rw [Table.count, passing_none]
      rfl
    · rw [total_ofStates, List.length_map]
    · rw [countWhere_state]
      exact get_ofStates _ state
  · simp only [countWhere_state]
    rw [sum_count, List.length_map]

/-! Where the texts stand. -/

/-- The statements on a queue use these texts and no others to tell the states of rows apart. -/
structure Uses (queue : Queue) : Prop where
  count : (countStatement queue none).text = sql "select " ++
    Fragment.join ", " (MessageState.all.map fun state =>
      sql "count(*) filter (where " ++ state.predicate.fragment ++ sql s!") as {state.name}") ++
    sql " from " ++ name queue.table
  sweep : ∀ limit, ∃ source, (sweepStatement queue.name limit).text =
    source ++ sql " where " ++ MessageState.sweepPredicate.fragment ++ sql " limit " ++ slot 1 ++ sql ")"
  /-- Behind the test for the state there may be others, for the shard and for the caller's filter. -/
  lease : ∀ options visibility, ∃ source others rest, (leaseStatement queue options visibility).text =
      source ++ sql " where " ++ (Expr.all (MessageState.leasable .wall ++ others)).fragment ++ sql " order by " ++ rest ∧
    (options.shards = none → options.filter = none → others = [])
  age : ∃ source rest, (messageAgeStatement queue).text =
    source ++ sql " where " ++ (Expr.all (MessageState.leasable .transaction)).fragment ++ sql " order by " ++ rest

theorem leaseCondition_leasable (options : ReceiveOptions) : ∃ others,
    (leaseCondition options).1 = .all (MessageState.leasable .wall ++ others) ∧
      (options.shards = none → options.filter = none → others = []) := by
  unfold leaseCondition
  cases options.shards <;> cases options.filter <;>
    refine ⟨_, congrArg Expr.all (List.append_assoc _ _ _), ?_⟩
  · exact fun _ _ => rfl
  · exact fun _ => nofun
  · exact nofun
  · exact nofun

theorem uses (queue : Queue) : Uses queue where
  count := by
    unfold countStatement whereClause
    simp
  sweep limit := by
    refine ⟨_, rfl⟩
  lease options visibility := by
    let source := sql "with id_to_update as ( select " ++ name MessageColumn.id.text ++ sql " as lease_id, " ++
      name MessageColumn.scheduledAt.text ++ sql " as lease_scheduled_at from " ++ name queue.table
    obtain ⟨others, shape, plain⟩ := leaseCondition_leasable options
    refine ⟨source, others, ?rest, ?text, plain⟩
    case text =>
      unfold leaseStatement
      rw [← shape]
      simp only [List.append_assoc, source]
      rfl
  age := by
    let age := secondsSince .createdAt ++ sql " from " ++ name queue.table ++ sql " order by " ++
      name MessageColumn.id.text
    let source := sql "select (select " ++ age ++ sql " asc limit 1) as oldest, (select " ++ age ++
      sql " desc limit 1) as newest, (select " ++ secondsSince .scheduledAt ++ sql " from " ++ name queue.table
    refine ⟨source, name MessageColumn.scheduledAt.text ++ sql " asc limit 1) as oldest_ready", ?_⟩
    unfold messageAgeStatement
    simp only [List.append_assoc, source, age]

/-- There is one set of boundaries between the states of a message. -/
theorem boundaries_agree (queue : Queue) : Uses queue ∧ (∀ row now, Boundaries row now) ∧
    ∀ table now, CountsAlike table now :=
  ⟨uses queue, boundaries, countsAlike⟩

end LeaseQueue.Sql
