import LeaseQueue.Proofs.Sql.Grammar

/-!
Expressions are read back from their text. The terms of a chain stand in parentheses, so that it is read as one chain
whatever the terms are.
-/
namespace LeaseQueue.Sql

/-! The letters of a text. -/

def Fragment.letters (fragment : Fragment) : List Char := fragment.render.toList

namespace Fragment

theorem letters_eq (fragment : Fragment) : fragment.letters = fragment.flatMap fun piece => piece.render.toList := by
  unfold letters render
  rw [String.toList_join, List.flatMap_map]

@[simp]
theorem letters_append (first second : Fragment) :
    Fragment.letters (first ++ second) = first.letters ++ second.letters := by
  rw [letters_eq, letters_eq, letters_eq, List.flatMap_append]

@[simp]
theorem letters_sql (content : String) : (sql content).letters = content.toList := by
  rw [letters_eq]
  exact List.append_nil _

@[simp]
theorem letters_name (identifier : String) : (name identifier).letters = identifier.toList := by
  rw [letters_eq]
  exact List.append_nil _

@[simp]
theorem letters_slot (index : Nat) : (slot index).letters = '$' :: Nat.toDigits 10 index := by
  have shown : (Piece.placeholder index).render.toList = '$' :: Nat.toDigits 10 index := by
    simp [Piece.render, toString, Nat.repr]
  rw [letters_eq, slot, List.flatMap_cons, shown]
  exact List.append_nil _

theorem join_single (separator : String) (fragment : Fragment) : join separator [fragment] = fragment :=
  List.append_nil fragment

theorem letters_join (separator : String) (first second : Fragment) (rest : List Fragment) :
    (join separator (first :: second :: rest)).letters =
      first.letters ++ (separator.toList ++ (join separator (second :: rest)).letters) := by
  have parts : join separator (first :: second :: rest) = first ++ (sql separator ++ join separator (second :: rest)) :=
    rfl
  rw [parts, letters_append, letters_append, letters_sql]

end Fragment

/-- What an expression with named columns and numbered placeholders means. -/
inductive Means : Expr → Formula → Prop
  | compare {column : String} (named : Tokenizes column.toList [.name column]) (relation : Relation) (index : Nat) :
      Means (.compare (.column column) relation (.placeholder index))
        (.compare (.column column) relation (.parameter index))
  | between {column : String} (named : Tokenizes column.toList [.name column]) (low high : Nat) :
      Means (.between (.column column) (.placeholder low) (.placeholder high))
        (.between (.column column) (.parameter low) (.parameter high))
  | among {column : String} (named : Tokenizes column.toList [.name column]) (index : Nat) :
      Means (.among (.column column) index) (.among (.column column) index)
  | isNull {column : String} (named : Tokenizes column.toList [.name column]) :
      Means (.isNull column) (.isNull (.column column))
  | isNotNull {column : String} (named : Tokenizes column.toList [.name column]) :
      Means (.isNotNull column) (.isNotNull (.column column))
  | group {inner : Expr} {formula : Formula} (means : Means inner formula) : Means (.group inner) formula
  | not {inner : Expr} {formula : Formula} (means : Means inner formula) :
      Means (.not (.group inner)) (.not formula)
  | allLast {last : Expr} {formula : Formula} (means : Means last formula) : Means (.all [.group last]) formula
  | allNext {first : Expr} {rest : List Expr} {formula others : Formula} (means : Means first formula)
      (chained : Means (.all rest) others) : Means (.all (.group first :: rest)) (.and formula others)
  | anyLast {last : Expr} {formula : Formula} (means : Means last formula) : Means (.any [.group last]) formula
  | anyNext {first : Expr} {rest : List Expr} {formula others : Formula} (means : Means first formula)
      (chained : Means (.any rest) others) : Means (.any (.group first :: rest)) (.or formula others)

/-- What the tokens of an expression are in the grammar. -/
def Reads (tokens : List Token) (formula : Formula) : Expr → Prop
  | .all _ => IsChain .and .and tokens formula
  | .any _ => IsChain .or .or tokens formula
  | _ => IsOperand tokens formula

theorem Reads.condition {tokens : List Token} {formula : Formula} {expr : Expr} (reads : Reads tokens formula expr) :
    IsCondition tokens formula := by
  cases expr with
  | all parts => exact IsChain.conjunction reads
  | any parts => exact IsChain.disjunction reads
  | compare | between | among | isNull | isNotNull | native | group | not => exact IsOperand.condition reads

namespace Expr

theorem letters_compare (column : String) (relation : Relation) (index : Nat) :
    (compare (.column column) relation (.placeholder index)).fragment.letters =
      column.toList ++ ' ' :: (relation.text.toList ++ ' ' :: '$' :: Nat.toDigits 10 index) := by
  show Fragment.letters (name column ++ sql s!" {relation.text} " ++ slot index) = _
  simp [toString]

theorem letters_between (column : String) (low high : Nat) :
    (between (.column column) (.placeholder low) (.placeholder high)).fragment.letters =
      column.toList ++ ' ' :: ("between".toList ++ ' ' :: ('$' :: Nat.toDigits 10 low ++
        ' ' :: ("and".toList ++ ' ' :: '$' :: Nat.toDigits 10 high))) := by
  show Fragment.letters (name column ++ sql " between " ++ slot low ++ sql " and " ++ slot high) = _
  simp

theorem letters_among (column : String) (index : Nat) :
    (among (.column column) index).fragment.letters =
      column.toList ++ ' ' :: ("=".toList ++ ' ' :: ("ANY".toList ++
        ' ' :: '(' :: ('$' :: Nat.toDigits 10 index ++ [')']))) := by
  show Fragment.letters (name column ++ sql " = ANY (" ++ slot index ++ sql ")") = _
  simp

theorem letters_isNull (column : String) :
    (isNull column).fragment.letters = column.toList ++ ' ' :: ("is".toList ++ ' ' :: "null".toList) := by
  show Fragment.letters (name column ++ sql " is null") = _
  simp

theorem letters_isNotNull (column : String) : (isNotNull column).fragment.letters =
    column.toList ++ ' ' :: ("is".toList ++ ' ' :: ("not".toList ++ ' ' :: "null".toList)) := by
  show Fragment.letters (name column ++ sql " is not null") = _
  simp

theorem letters_group (inner : Expr) : (group inner).fragment.letters = '(' :: inner.fragment.letters ++ [')'] := by
  show Fragment.letters (sql "(" ++ inner.fragment ++ sql ")") = _
  simp

theorem letters_not (inner : Expr) : (not inner).fragment.letters = "not".toList ++ ' ' :: inner.fragment.letters := by
  show Fragment.letters (sql "not " ++ inner.fragment) = _
  simp

theorem letters_all_last (last : Expr) : (all [last]).fragment.letters = last.fragment.letters := by
  have parts : (all [last]).fragment = Fragment.join " and " [last.fragment] := rfl
  rw [parts, Fragment.join_single]

theorem letters_all_next (first second : Expr) (rest : List Expr) : (all (first :: second :: rest)).fragment.letters =
    first.fragment.letters ++ ' ' :: ("and".toList ++ ' ' :: (all (second :: rest)).fragment.letters) := by
  have parts (given : List Expr) : (all given).fragment = Fragment.join " and " (fragments given) := rfl
  rw [parts, parts, fragments, fragments, Fragment.letters_join]
  rfl

theorem letters_any_last (last : Expr) : (any [last]).fragment.letters = last.fragment.letters := by
  have parts : (any [last]).fragment = Fragment.join " or " [last.fragment] := rfl
  rw [parts, Fragment.join_single]

theorem letters_any_next (first second : Expr) (rest : List Expr) : (any (first :: second :: rest)).fragment.letters =
    first.fragment.letters ++ ' ' :: ("or".toList ++ ' ' :: (any (second :: rest)).fragment.letters) := by
  have parts (given : List Expr) : (any given).fragment = Fragment.join " or " (fragments given) := rfl
  rw [parts, parts, fragments, fragments, Fragment.letters_join]
  rfl

end Expr

namespace Tokenizes

theorem and : Tokenizes "and".toList [.keyword .and] := word (c := 'a') rfl rfl rfl

theorem or : Tokenizes "or".toList [.keyword .or] := word (c := 'o') rfl rfl rfl

theorem not : Tokenizes "not".toList [.keyword .not] := word (c := 'n') rfl rfl rfl

theorem between : Tokenizes "between".toList [.keyword .between] := word (c := 'b') rfl rfl rfl

theorem is : Tokenizes "is".toList [.keyword .is] := word (c := 'i') rfl rfl rfl

theorem null : Tokenizes "null".toList [.keyword .null] := word (c := 'n') rfl rfl rfl

theorem any : Tokenizes "ANY".toList [.keyword .any] := word (c := 'A') rfl rfl rfl

theorem group {text : List Char} {tokens : List Token} (inner : Tokenizes text tokens) :
    Tokenizes ('(' :: text ++ [')']) (.opening :: tokens ++ [.closing]) := inner.opening.closing

end Tokenizes

/-- The text of an expression has the tokens of what it means. -/
theorem Means.reads {expr : Expr} {formula : Formula} (means : Means expr formula) :
    ∃ tokens, Tokenizes expr.fragment.letters tokens ∧ Reads tokens formula expr := by
  induction means with
  | @compare column named relation index =>
    refine ⟨_, ?_, IsOperand.compare column relation index⟩
    rw [Expr.letters_compare]
    exact named.spaced ((Tokenizes.relation relation).spaced (.parameter index))
  | @between column named low high =>
    refine ⟨_, ?_, IsOperand.between column low high⟩
    rw [Expr.letters_between]
    have upper : Tokenizes ("and".toList ++ ' ' :: '$' :: Nat.toDigits 10 high) [.keyword .and, .parameter high] :=
      Tokenizes.and.spaced (.parameter high)
    exact named.spaced (Tokenizes.between.spaced ((Tokenizes.parameter low).spaced upper))
  | @among column named index =>
    refine ⟨_, ?_, IsOperand.among column index⟩
    rw [Expr.letters_among]
    exact named.spaced ((Tokenizes.relation .eq).spaced (Tokenizes.any.spaced (Tokenizes.parameter index).group))
  | @isNull column named =>
    refine ⟨_, ?_, IsOperand.isNull column⟩
    rw [Expr.letters_isNull]
    exact named.spaced (Tokenizes.is.spaced .null)
  | @isNotNull column named =>
    refine ⟨_, ?_, IsOperand.isNotNull column⟩
    rw [Expr.letters_isNotNull]
    exact named.spaced (Tokenizes.is.spaced (Tokenizes.not.spaced .null))
  | group _ ih =>
    obtain ⟨tokens, tokenizes, reads⟩ := ih
    refine ⟨_, ?_, IsOperand.group reads.condition⟩
    rw [Expr.letters_group]
    exact tokenizes.group
  | not _ ih =>
    obtain ⟨tokens, tokenizes, reads⟩ := ih
    refine ⟨_, ?_, (IsOperand.group reads.condition).not⟩
    rw [Expr.letters_not, Expr.letters_group]
    exact Tokenizes.not.spaced tokenizes.group
  | allLast _ ih =>
    obtain ⟨tokens, tokenizes, reads⟩ := ih
    refine ⟨_, ?_, IsChain.last (IsOperand.group reads.condition)⟩
    rw [Expr.letters_all_last, Expr.letters_group]
    exact tokenizes.group
  | @allNext first rest formula others _ chained ih later =>
    obtain ⟨tokens, tokenizes, reads⟩ := ih
    obtain ⟨behind, following, chain⟩ := later
    refine ⟨_, ?_, IsChain.next (IsOperand.group reads.condition) chain⟩
    cases rest with
    | nil => cases chained
    | cons second rest =>
      rw [Expr.letters_all_next, Expr.letters_group]
      exact tokenizes.group.spaced (Tokenizes.and.spaced following)
  | anyLast _ ih =>
    obtain ⟨tokens, tokenizes, reads⟩ := ih
    refine ⟨_, ?_, IsChain.last (IsOperand.group reads.condition)⟩
    rw [Expr.letters_any_last, Expr.letters_group]
    exact tokenizes.group
  | @anyNext first rest formula others _ chained ih later =>
    obtain ⟨tokens, tokenizes, reads⟩ := ih
    obtain ⟨behind, following, chain⟩ := later
    refine ⟨_, ?_, IsChain.next (IsOperand.group reads.condition) chain⟩
    cases rest with
    | nil => cases chained
    | cons second rest =>
      rw [Expr.letters_any_next, Expr.letters_group]
      exact tokenizes.group.spaced (Tokenizes.or.spaced following)

/-- An expression is read back from its text. -/
theorem Means.ofText? {expr : Expr} {formula : Formula} (means : Means expr formula) :
    Formula.ofText? expr.text = some formula := by
  obtain ⟨tokens, tokenizes, reads⟩ := means.reads
  exact Formula.ofText?_eq tokenizes reads.condition

end LeaseQueue.Sql
