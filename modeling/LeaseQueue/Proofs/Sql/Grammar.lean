import LeaseQueue.Proofs.Sql.Tokens

/-!
SQL conditions read from their text. `or` binds less than `and`, `and` less than `not`, and `not` less than comparisons;
the `and` of a `between` belongs to it.
-/
namespace LeaseQueue.Sql

/-- What a comparison compares. -/
inductive Term
  | column (name : String)
  | parameter (index : Nat)
deriving DecidableEq, Repr

/-- A condition as it is understood. -/
inductive Formula
  | compare (left : Term) (relation : Relation) (right : Term)
  | between (subject low high : Term)
  /-- Equal to some element of an array. -/
  | among (subject : Term) (index : Nat)
  | isNull (subject : Term)
  | isNotNull (subject : Term)
  | not (inner : Formula)
  | and (left right : Formula)
  | or (left right : Formula)
deriving DecidableEq, Repr

/-- Reads a formula off the front of some tokens. -/
abbrev Reader := List Token → Option (Formula × List Token)

def term? : Token → Option Term
  | .name content => some (.column content)
  | .parameter index => some (.parameter index)
  | _ => none

/-- A comparison or a test for null. -/
def predicate : Reader
  | subject :: .relation .eq :: .keyword .any :: .opening :: .parameter index :: .closing :: rest => do
    some (.among (← term? subject) index, rest)
  | left :: .relation relation :: right :: rest => do some (.compare (← term? left) relation (← term? right), rest)
  | subject :: .keyword .between :: low :: .keyword .and :: high :: rest => do
    some (.between (← term? subject) (← term? low) (← term? high), rest)
  | subject :: .keyword .is :: .keyword .null :: rest => do some (.isNull (← term? subject), rest)
  | subject :: .keyword .is :: .keyword .not :: .keyword .null :: rest => do some (.isNotNull (← term? subject), rest)
  | _ => none

/-- A predicate, or anything in parentheses. -/
def primary (inner : Reader) : Reader
  | .opening :: tokens =>
    match inner tokens with
    | some (formula, .closing :: rest) => some (formula, rest)
    | _ => none
  | tokens => predicate tokens

def negation (inner : Reader) : Reader
  | .keyword .not :: tokens => (negation inner tokens).map fun (formula, rest) => (.not formula, rest)
  | tokens => primary inner tokens

/-- Operands with a keyword between neighbours, at most `limit` of them. -/
def chain (word : Keyword) (join : Formula → Formula → Formula) (operand : Reader) : Nat → Reader
  | 0, _ => none
  | limit + 1, tokens => do
    let (first, rest) ← operand tokens
    match rest with
    | .keyword next :: more =>
      if next = word then
        let (others, last) ← chain word join operand limit more
        some (join first others, last)
      else some (first, rest)
    | _ => some (first, rest)

/-- A condition whose parentheses go no deeper than `depth`. -/
def expression : Nat → Reader
  | 0, _ => none
  | depth + 1, tokens =>
    let conjunction := chain .and .and (negation (expression depth)) tokens.length
    chain .or .or conjunction tokens.length tokens

/-- Reads a whole text. -/
def Formula.ofText? (text : String) : Option Formula := do
  let tokens ← tokenize .nothing text.toList
  match expression (tokens.length + 1) tokens with
  | some (formula, []) => some formula
  | _ => none

/-! What the readers read. -/

/-- The tokens are an operand of `not`, `and` and `or`, whatever comes behind them. -/
structure IsOperand (tokens : List Token) (formula : Formula) : Prop where
  nonempty : tokens ≠ []
  reads : ∀ depth, tokens.length ≤ depth → ∀ rest, negation (expression depth) (tokens ++ rest) = some (formula, rest)

/-- Tokens behind which a condition is over. -/
def Closes (rest : List Token) : Prop := rest = [] ∨ ∃ more, rest = .closing :: more

/-- The tokens are a condition. -/
def IsCondition (tokens : List Token) (formula : Formula) : Prop :=
  ∀ depth, tokens.length ≤ depth → ∀ rest, Closes rest → expression (depth + 1) (tokens ++ rest) = some (formula, rest)

/-- Operands with a keyword between neighbours, joined from the right. -/
inductive IsChain (word : Keyword) (join : Formula → Formula → Formula) : List Token → Formula → Prop
  | last {tokens : List Token} {formula : Formula} (operand : IsOperand tokens formula) :
      IsChain word join tokens formula
  | next {tokens others : List Token} {formula joined : Formula} (operand : IsOperand tokens formula)
      (chained : IsChain word join others joined) :
      IsChain word join (tokens ++ .keyword word :: others) (join formula joined)

theorem Closes.not_keyword {rest : List Token} (closes : Closes rest) (word : Keyword) (more : List Token) :
    rest ≠ .keyword word :: more := by
  rcases closes with rfl | ⟨others, rfl⟩ <;> exact nofun

theorem chain_last {word : Keyword} {join : Formula → Formula → Formula} {operand : Reader} {tokens rest : List Token}
    {formula : Formula} (reads : operand tokens = some (formula, rest))
    (stops : ∀ more, rest ≠ .keyword word :: more) (limit : Nat) :
    chain word join operand (limit + 1) tokens = some (formula, rest) := by
  rw [chain, reads]
  cases rest with
  | nil => rfl
  | cons first more =>
    cases first with
    | keyword next => exact if_neg fun same => stops more (by rw [same])
    | name | relation | parameter | opening | closing => rfl

theorem chain_next {word : Keyword} {join : Formula → Formula → Formula} {operand : Reader}
    {tokens more rest : List Token} {formula joined : Formula}
    (reads : operand tokens = some (formula, .keyword word :: more)) {limit : Nat}
    (later : chain word join operand limit more = some (joined, rest)) :
    chain word join operand (limit + 1) tokens = some (join formula joined, rest) := by
  rw [chain, reads]
  refine (if_pos rfl).trans ?_
  rw [later]
  rfl

/-- A chain is read whole if its operands are read whatever may come behind them. -/
theorem IsChain.reads (May : List Token → Prop) {word : Keyword} {join : Formula → Formula → Formula}
    {tokens : List Token} {formula : Formula}
    (chained : IsChain word join tokens formula) {operand : Reader} {depth : Nat}
    (reads : ∀ part meaning rest, IsOperand part meaning → part.length ≤ depth → May rest →
      operand (part ++ rest) = some (meaning, rest))
    (link : ∀ more, May (.keyword word :: more)) {rest : List Token} (may : May rest)
    (stops : ∀ more, rest ≠ .keyword word :: more) (deep : tokens.length ≤ depth) {limit : Nat}
    (long : tokens.length ≤ limit) : chain word join operand limit (tokens ++ rest) = some (formula, rest) := by
  induction chained generalizing limit with
  | @last tokens formula given =>
    have some := List.length_pos_iff.mpr given.nonempty
    obtain ⟨limit, rfl⟩ : ∃ less, limit = less + 1 := ⟨limit - 1, by omega⟩
    exact chain_last (reads _ _ _ given deep may) stops limit
  | @next tokens others formula joined given _ ih =>
    rw [List.length_append, List.length_cons] at deep long
    obtain ⟨limit, rfl⟩ : ∃ less, limit = less + 1 := ⟨limit - 1, by omega⟩
    rw [List.append_assoc, List.cons_append]
    exact chain_next (reads _ _ _ given (by omega) (link _)) (ih (by omega) (by omega))

theorem IsChain.room {word : Keyword} {join : Formula → Formula → Formula} {tokens : List Token} {formula : Formula}
    (chained : IsChain word join tokens formula) (rest : List Token) :
    ∃ less, (tokens ++ rest).length = less + 1 ∧ tokens.length ≤ less + 1 := by
  have some : 0 < tokens.length := by
    cases chained with
    | last operand => exact List.length_pos_iff.mpr operand.nonempty
    | next operand => exact List.length_pos_iff.mpr (List.append_ne_nil_of_left_ne_nil operand.nonempty _)
  refine ⟨(tokens ++ rest).length - 1, ?_⟩
  rw [List.length_append]
  omega

/-- Operands with `or` between them are a condition. -/
theorem IsChain.disjunction {tokens : List Token} {formula : Formula} (chained : IsChain .or .or tokens formula) :
    IsCondition tokens formula := by
  intro depth deep rest closes
  obtain ⟨less, limit, long⟩ := chained.room rest
  rw [expression, limit]
  exact chained.reads (fun rest => ∀ more, rest ≠ .keyword .and :: more)
    (fun part meaning rest operand short may => chain_last (operand.reads depth short rest) may less)
    (fun _ => nofun) (closes.not_keyword .and) (closes.not_keyword .or) deep long

/-- Operands with `and` between them are a condition. -/
theorem IsChain.conjunction {tokens : List Token} {formula : Formula} (chained : IsChain .and .and tokens formula) :
    IsCondition tokens formula := by
  intro depth deep rest closes
  obtain ⟨less, limit, long⟩ := chained.room rest
  rw [expression, limit]
  have conjoined := chained.reads (fun _ => True)
    (fun part meaning rest operand short _ => operand.reads depth short rest)
    (fun _ => trivial) trivial (closes.not_keyword .and) deep long
  exact chain_last conjoined (closes.not_keyword .or) less

namespace IsOperand

variable {tokens : List Token} {formula : Formula}

theorem condition (operand : IsOperand tokens formula) : IsCondition tokens formula :=
  (IsChain.last operand).disjunction

/-- A condition in parentheses. -/
theorem group (inner : IsCondition tokens formula) : IsOperand (.opening :: tokens ++ [.closing]) formula := by
  refine ⟨nofun, fun depth deep rest => ?_⟩
  rw [List.length_append, List.length_cons, List.length_singleton] at deep
  obtain ⟨depth, rfl⟩ : ∃ less, depth = less + 1 := ⟨depth - 1, by omega⟩
  have read := inner depth (by omega) (.closing :: rest) (.inr ⟨rest, rfl⟩)
  rw [List.append_assoc, List.singleton_append, List.cons_append, negation, primary, read]
  · exact nofun

theorem not (inner : IsOperand tokens formula) : IsOperand (.keyword .not :: tokens) (.not formula) := by
  refine ⟨nofun, fun depth deep rest => ?_⟩
  rw [List.cons_append, negation, inner.reads depth (Nat.le_of_succ_le deep) rest]
  rfl

/-- Tokens that begin with a term are an operand if they are a predicate. -/
theorem ofPredicate {subject : Token} {term : Term} (is : term? subject = some term) {more : List Token}
    (reads : ∀ rest, predicate (subject :: more ++ rest) = some (formula, rest)) :
    IsOperand (subject :: more) formula := by
  refine ⟨nofun, fun depth _ rest => ?_⟩
  have read := reads rest
  rw [List.cons_append] at read ⊢
  cases subject with
  | name | parameter => exact read
  | keyword | relation | opening | closing => cases is

theorem compare (column : String) (relation : Relation) (index : Nat) :
    IsOperand [.name column, .relation relation, .parameter index]
      (.compare (.column column) relation (.parameter index)) := by
  refine ofPredicate rfl fun rest => ?_
  cases relation <;> rfl

theorem between (column : String) (low high : Nat) :
    IsOperand [.name column, .keyword .between, .parameter low, .keyword .and, .parameter high]
      (.between (.column column) (.parameter low) (.parameter high)) :=
  ofPredicate rfl fun _ => rfl

theorem among (column : String) (index : Nat) :
    IsOperand [.name column, .relation .eq, .keyword .any, .opening, .parameter index, .closing]
      (.among (.column column) index) :=
  ofPredicate rfl fun _ => rfl

theorem isNull (column : String) : IsOperand [.name column, .keyword .is, .keyword .null] (.isNull (.column column)) :=
  ofPredicate rfl fun _ => rfl

theorem isNotNull (column : String) :
    IsOperand [.name column, .keyword .is, .keyword .not, .keyword .null] (.isNotNull (.column column)) :=
  ofPredicate rfl fun _ => rfl

end IsOperand

/-- A text whose tokens are a condition is read as that. -/
theorem Formula.ofText?_eq {text : String} {tokens : List Token} {formula : Formula}
    (tokenizes : Tokenizes text.toList tokens) (condition : IsCondition tokens formula) :
    Formula.ofText? text = some formula := by
  have cut := tokenizes [] (.inl rfl)
  have read := condition tokens.length (Nat.le_refl _) [] (.inl rfl)
  rw [List.append_nil] at cut read
  unfold Formula.ofText?
  rw [cut]
  simp only [tokenize, Pending.tokens?, Option.map_some, List.append_nil, Option.bind_eq_bind, Option.bind_some, read]

example : Formula.ofText? "a = $1 or b is null and not c < $2" =
    some (.or (.compare (.column "a") .eq (.parameter 1))
      (.and (.isNull (.column "b")) (.not (.compare (.column "c") .lt (.parameter 2))))) := by
  decide +kernel

end LeaseQueue.Sql
