import LeaseQueue.Name
import LeaseQueue.Sql.Expr
import Mathlib.Data.List.Basic

/-!
The text of an SQL condition cut into words, numbers and signs. Words are keywords in whatever case they are written.
-/
namespace LeaseQueue.Sql

inductive Keyword
  | and
  | or
  | not
  | between
  | is
  | null
  | any
deriving DecidableEq, Repr

/-- The least part of a condition that means something. -/
inductive Token
  | name (content : String)
  | keyword (word : Keyword)
  | relation (relation : Relation)
  /-- A placeholder by its number. -/
  | parameter (index : Nat)
  | opening
  | closing
deriving DecidableEq, Repr

/-- The words that are no names. -/
def keywords : List (String × Token) :=
  [("and", .keyword .and), ("or", .keyword .or), ("not", .keyword .not), ("between", .keyword .between),
    ("is", .keyword .is), ("null", .keyword .null), ("any", .keyword .any), ("like", .relation .like)]

def wordToken (content : List Char) : Token :=
  match keywords.find? fun entry => entry.1.toList = content.map Char.toLower with
  | some (_, token) => token
  | none => .name (String.ofList content)

def relation? (content : List Char) : Option Relation :=
  [Relation.eq, .ne, .gt, .ge, .lt, .le].find? fun relation => relation.text.toList = content

/-- A part that has begun and may go on. -/
inductive Pending
  | nothing
  | word (content : List Char)
  | number (digits : List Char)
  | sign (content : List Char)

namespace Pending

/-- The part with one more character, if that belongs to it. -/
def grow? : Pending → Char → Option Pending
  | nothing, _ => none
  | word content, c => if isNameSymbol c then some (word (content ++ [c])) else none
  | number digits, c => if c.isDigit then some (number (digits ++ [c])) else none
  | sign content, c => if c ∈ ['<', '=', '>'] then some (sign (content ++ [c])) else none

/-- What the part is when it goes on no further. -/
def tokens? : Pending → Option (List Token)
  | nothing => some []
  | word content => some [wordToken content]
  | number digits => if digits = [] then none else some [.parameter (Nat.ofDigitChars 10 digits 0)]
  | sign content => (relation? content).map fun relation => [.relation relation]

/-- What begins with a character, and what is over with it. -/
def start? (c : Char) : Option (List Token × Pending) :=
  if c = ' ' then some ([], nothing)
  else if c = '(' then some ([.opening], nothing)
  else if c = ')' then some ([.closing], nothing)
  else if c = '$' then some ([], number [])
  else if c ∈ ['<', '=', '>'] then some ([], sign [c])
  else if isNameSymbol c && !c.isDigit then some ([], word [c])
  else none

end Pending

/-- The tokens of a text behind a part that has begun. -/
def tokenize : Pending → List Char → Option (List Token)
  | pending, [] => pending.tokens?
  | pending, c :: rest =>
    match pending.grow? c with
    | some grown => tokenize grown rest
    | none => do
      let ended ← pending.tokens?
      let (single, started) ← Pending.start? c
      let others ← tokenize started rest
      some (ended ++ single ++ others)

/-- Text behind which every part is over. -/
def Breaks (rest : List Char) : Prop := rest = [] ∨ ∃ more, rest = ' ' :: more ∨ rest = ')' :: more

/-- The text has these tokens, whatever comes behind it. -/
def Tokenizes (text : List Char) (tokens : List Token) : Prop :=
  ∀ rest, Breaks rest → tokenize .nothing (text ++ rest) = (tokenize .nothing rest).map (tokens ++ ·)

theorem Breaks.space (rest : List Char) : Breaks (' ' :: rest) := .inr ⟨rest, .inl rfl⟩

theorem Breaks.closing (rest : List Char) : Breaks (')' :: rest) := .inr ⟨rest, .inr rfl⟩

theorem grow?_space (pending : Pending) : pending.grow? ' ' = none := by
  cases pending <;> rfl

theorem grow?_closing (pending : Pending) : pending.grow? ')' = none := by
  cases pending <;> rfl

/-- A character that ends one part and begins the next. -/
theorem tokenize_cons {pending started : Pending} {c : Char} {ended single : List Token}
    (stops : pending.grow? c = none)
    (means : pending.tokens? = some ended) (begins : Pending.start? c = some (single, started)) (rest : List Char) :
    tokenize pending (c :: rest) = (tokenize started rest).map (ended ++ single ++ ·) := by
  rw [tokenize, stops]
  dsimp only
  rw [means, begins]
  cases done : tokenize started rest <;> simp [done]

/-- A part that is over has its tokens before those of the rest. -/
theorem tokenize_breaks {pending : Pending} {tokens : List Token} (means : pending.tokens? = some tokens)
    {rest : List Char} (breaks : Breaks rest) :
    tokenize pending rest = (tokenize .nothing rest).map (tokens ++ ·) := by
  rcases breaks with rfl | ⟨more, rfl | rfl⟩
  · rw [tokenize, tokenize, means]
    exact congrArg some (List.append_nil _).symm
  · rw [tokenize_cons (grow?_space pending) means rfl, tokenize_cons (grow?_space .nothing) rfl rfl, Option.map_map]
    congr 1
    funext others
    simp
  · rw [tokenize_cons (grow?_closing pending) means rfl, tokenize_cons (grow?_closing .nothing) rfl rfl, Option.map_map]
    congr 1
    funext others
    simp

/-- A part takes in all the characters that belong to it. -/
theorem tokenize_grow {part : List Char → Pending} {may : Char → Bool}
    (grows : ∀ content c, may c → (part content).grow? c = some (part (content ++ [c]))) (content : List Char)
    {more : List Char} (belong : more.all may) (rest : List Char) :
    tokenize (part content) (more ++ rest) = tokenize (part (content ++ more)) rest := by
  induction more generalizing content with
  | nil => rw [List.append_nil, List.nil_append]
  | cons c more ih =>
    rw [List.all_cons, Bool.and_eq_true] at belong
    rw [List.cons_append, tokenize, grows content c belong.1]
    dsimp only
    rw [ih _ belong.2, List.append_assoc, List.singleton_append]

namespace Tokenizes

variable {text other : List Char} {tokens others : List Token}

theorem space (later : Tokenizes text tokens) : Tokenizes (' ' :: text) tokens := by
  intro rest breaks
  rw [List.cons_append, tokenize_cons (grow?_space .nothing) rfl rfl, later rest breaks, Option.map_map]
  rfl

theorem spaced (earlier : Tokenizes text tokens) (later : Tokenizes other others) :
    Tokenizes (text ++ ' ' :: other) (tokens ++ others) := by
  intro rest breaks
  have both := later.space rest breaks
  rw [List.append_assoc, List.cons_append, earlier _ (.space _), ← List.cons_append, both, Option.map_map]
  congr 1
  funext more
  exact (List.append_assoc _ _ _).symm

theorem opening (later : Tokenizes text tokens) : Tokenizes ('(' :: text) (.opening :: tokens) := by
  intro rest breaks
  rw [List.cons_append, tokenize_cons rfl rfl rfl, later rest breaks, Option.map_map]
  rfl

theorem closing (earlier : Tokenizes text tokens) : Tokenizes (text ++ [')']) (tokens ++ [.closing]) := by
  intro rest breaks
  rw [List.append_assoc, List.singleton_append, earlier _ (.closing _), tokenize_cons (grow?_closing .nothing) rfl rfl,
    Option.map_map]
  congr 1
  funext more
  simp

/-- A part that a character begins and others go on. -/
theorem part (part : List Char → Pending) {may : Char → Bool}
    (grows : ∀ content c, may c → (part content).grow? c = some (part (content ++ [c]))) {c : Char}
    {begun more : List Char} (begins : Pending.start? c = some ([], part begun)) (belong : more.all may)
    (means : (part (begun ++ more)).tokens? = some tokens) : Tokenizes (c :: more) tokens := by
  intro rest breaks
  rw [List.cons_append, tokenize_cons rfl rfl begins, tokenize_grow grows _ belong, tokenize_breaks means breaks,
    Option.map_map]
  rfl

theorem word {c : Char} {more : List Char} (first : isNameSymbol c) (letter : c.isDigit = false)
    (symbols : more.all isNameSymbol) : Tokenizes (c :: more) [wordToken (c :: more)] := by
  have other (d : Char) (sign : isNameSymbol d = false) : c ≠ d := fun same => by rw [same, sign] at first; cases first
  have begins : Pending.start? c = some ([], .word [c]) := by
    unfold Pending.start?
    rw [if_neg (other _ rfl), if_neg (other _ rfl), if_neg (other _ rfl), if_neg (other _ rfl), if_neg, if_pos]
    · rw [first, letter]
      rfl
    · simp [other '<' rfl, other '=' rfl, other '>' rfl]
  exact part .word (fun _ _ symbol => if_pos symbol) begins symbols rfl

theorem parameter (index : Nat) : Tokenizes ('$' :: Nat.toDigits 10 index) [.parameter index] := by
  have decimal : (Nat.toDigits 10 index).all Char.isDigit :=
    List.all_eq_true.mpr fun _ member => Nat.isDigit_of_mem_toDigits (by decide) (by decide) member
  refine part .number (fun _ _ digit => if_pos digit) rfl decimal ?_
  rw [List.nil_append, Pending.tokens?, if_neg Nat.toDigits_ne_nil, Nat.ofDigitChars_ten_toDigits]

theorem relation (relation : Relation) : Tokenizes relation.text.toList [.relation relation] := by
  cases relation with
  | like => exact word (c := 'l') rfl rfl rfl
  | eq | ne | gt | ge | lt | le => exact part .sign (fun _ _ sign => if_pos (of_decide_eq_true sign)) rfl rfl rfl

end Tokenizes

end LeaseQueue.Sql
