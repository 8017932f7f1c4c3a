import LeaseQueue.Identifier.MessageId
import LeaseQueue.Proofs.Text.Numeral
import Mathlib.Data.List.TakeDrop
import Mathlib.Data.List.TakeWhile

/-!
The text form of an address. It is read by the numerals around its first slash, and written with the plain numerals of
both numbers, so every address comes back from its text.
-/
namespace LeaseQueue.MessageId

/-- The parts of a text before and behind its first slash. -/
structure Parts (text localText shardText : List Char) : Prop where
  whole : text = localText ++ '/' :: shardText
  first : '/' ∉ localText

/-- The numbers of an address fit their words, and the shard is at least one. -/
structure Valid (id : MessageId) : Prop where
  localId : smallestLocalId ≤ id.localId ∧ id.localId ≤ largestLocalId
  shard : 1 ≤ id.shard ∧ id.shard ≤ largestShard

/-- The text has numerals of the address around its first slash. -/
def Names (text : String) (id : MessageId) : Prop :=
  ∃ localText shardText, Parts text.toList localText shardText ∧
    Numeral.Denotes localText id.localId ∧ Numeral.Denotes shardText id.shard ∧ id.Valid

variable {text localText shardText : List Char} {id : MessageId}

theorem before_slash (absent : '/' ∉ text) : ∀ c ∈ text, (c != '/') = true := by
  intro c member
  rw [bne_iff_ne]
  rintro rfl
  exact absent member

theorem Parts.span_eq (parts : Parts text localText shardText) :
    text.span (· != '/') = (localText, '/' :: shardText) := by
  obtain ⟨rfl, first⟩ := parts
  have before := before_slash first
  rw [List.span_eq_takeWhile_dropWhile, List.takeWhile_append_of_pos before, List.dropWhile_append_of_pos before]
  simp

theorem Parts.unique {otherLocal otherShard : List Char} (here : Parts text localText shardText)
    (there : Parts text otherLocal otherShard) : localText = otherLocal ∧ shardText = otherShard := by
  have same := here.span_eq.symm.trans there.span_eq
  simpa using same

/-- Only a text without a slash has no parts. -/
theorem exists_parts (slash : '/' ∈ text) : ∃ localText shardText, Parts text localText shardText := by
  obtain ⟨localText, shardText, whole, first⟩ := List.eq_append_cons_of_mem slash
  exact ⟨localText, shardText, whole, first⟩

theorem parse?_of_parts (parts : Parts text localText shardText) : parse? text = some id ↔
    Numeral.Denotes localText id.localId ∧ Numeral.Denotes shardText id.shard ∧ id.Valid := by
  unfold parse?
  rw [parts.span_eq]
  simp only [bind, Option.bind_eq_some_iff, Numeral.readBetween?_eq_some_iff, Option.some.injEq]
  constructor
  · rintro ⟨localId, ⟨denotes, fits⟩, shard, ⟨denotes', fits'⟩, rfl⟩
    exact ⟨denotes, denotes', fits, fits'⟩
  · rintro ⟨denotes, denotes', fits, fits'⟩
    exact ⟨id.localId, ⟨denotes, fits⟩, id.shard, ⟨denotes', fits'⟩, rfl⟩

theorem parse?_eq_some_iff : parse? text = some id ↔ ∃ localText shardText, Parts text localText shardText ∧
    Numeral.Denotes localText id.localId ∧ Numeral.Denotes shardText id.shard ∧ id.Valid := by
  by_cases slash : '/' ∈ text
  · obtain ⟨localText, shardText, parts⟩ := exists_parts slash
    rw [parse?_of_parts parts]
    constructor
    · intro named
      exact ⟨localText, shardText, parts, named⟩
    · rintro ⟨_, _, others, named⟩
      obtain ⟨rfl, rfl⟩ := parts.unique others
      exact named
  · have whole : text.span (· != '/') = (text, []) := by
      have all := before_slash slash
      rw [List.span_eq_takeWhile_dropWhile, List.takeWhile_eq_self_iff.mpr all, List.dropWhile_eq_nil_iff.mpr all]
    unfold parse?
    rw [whole]
    constructor
    · exact nofun
    · rintro ⟨_, _, parts, -⟩
      rw [parts.whole] at slash
      simp at slash

theorem ofString_eq_ok_iff {text : String} : ofString text = .ok id ↔ Names text id := by
  unfold Names
  rw [← parse?_eq_some_iff]
  unfold ofString
  cases parse? text.toList <;> simp

/-- The text of an address has its numbers around its only slash. -/
theorem parts_text (id : MessageId) :
    Parts id.text.toList (toString id.localId).toList (toString id.shard).toList := by
  refine ⟨?_, (Numeral.spells_toString id.localId).no_slash⟩
  have slash : (toString "/").toList = ['/'] := by decide
  simp only [MessageId.text, String.toList_append, slash, List.append_assoc, List.singleton_append]

theorem names_text (valid : id.Valid) : Names id.text id :=
  ⟨_, _, parts_text id, Numeral.denotes_toString id.localId, Numeral.denotes_toString id.shard, valid⟩

theorem text_injective {other : MessageId} (same : id.text = other.text) : id = other := by
  have parts := parts_text id
  rw [same] at parts
  obtain ⟨sameLocal, sameShard⟩ := parts.unique (parts_text other)
  have localId : id.localId = other.localId :=
    (Numeral.denotes_toString id.localId).unique (sameLocal ▸ Numeral.denotes_toString other.localId)
  have shard : id.shard = other.shard :=
    (Numeral.denotes_toString id.shard).unique (sameShard ▸ Numeral.denotes_toString other.shard)
  cases id
  cases other
  cases localId
  cases shard
  rfl

/-- An address is written as it was read exactly if both numerals were plain. -/
theorem text_eq_iff {text : String} (parts : Parts text.toList localText shardText)
    (ofLocal : Numeral.Denotes localText id.localId) (ofShard : Numeral.Denotes shardText id.shard) :
    id.text = text ↔ Numeral.IsPlain localText ∧ Numeral.IsPlain shardText := by
  rw [← Numeral.toString_eq_iff ofLocal, ← Numeral.toString_eq_iff ofShard, ← String.toList_inj]
  constructor
  · intro same
    have written := parts_text id
    rw [same] at written
    exact written.unique parts
  · rintro ⟨sameLocal, sameShard⟩
    rw [(parts_text id).whole, parts.whole, sameLocal, sameShard]

/-- A text is read exactly if numerals around its first slash name a valid address, which is the answer; any other text
is given back with the refusal. Every valid address is read from its text, different addresses have different texts, and
a text that was read is the one written if and only if its numerals are plain. -/
theorem text_form :
    (∀ text id, ofString text = .ok id ↔ Names text id) ∧
    (∀ text, (¬ ∃ id, Names text id) → ofString text = .error (.malformedId text)) ∧
    (∀ id : MessageId, id.Valid → ofString id.text = .ok id) ∧
    (∀ id other : MessageId, id.text = other.text → id = other) ∧
    ∀ text id localText shardText, ofString text = .ok id → Parts text.toList localText shardText →
      (id.text = text ↔ Numeral.IsPlain localText ∧ Numeral.IsPlain shardText) := by
  refine ⟨fun _ _ => ofString_eq_ok_iff, ?_, ?_, fun _ _ => text_injective, ?_⟩
  · intro text unnamed
    cases read : ofString text with
    | ok id => exact absurd ⟨id, ofString_eq_ok_iff.mp read⟩ unnamed
    | error failure =>
      unfold ofString at read
      split at read
      · cases read
      · rw [← read]
  · intro id valid
    exact ofString_eq_ok_iff.mpr (names_text valid)
  · intro text id localText shardText read parts
    obtain ⟨_, _, others, ofLocal, ofShard, -⟩ := ofString_eq_ok_iff.mp read
    obtain ⟨rfl, rfl⟩ := parts.unique others
    exact text_eq_iff parts ofLocal ofShard

/-- A text with a plus and a leading zero is read, and another one is written. -/
theorem padded_text_form : ofString "+07/3" = .ok ⟨7, 3⟩ ∧ MessageId.text ⟨7, 3⟩ ≠ "+07/3" := by
  obtain ⟨reads, -, -, -, writes⟩ := text_form
  have parts : Parts "+07/3".toList ['+', '0', '7'] ['3'] := ⟨by decide, by decide⟩
  have zeroSeven : ∀ c ∈ ['0', '7'], c.isDigit = true := by simp
  have three : ∀ c ∈ ['3'], c.isDigit = true := by simp
  have ofLocal : Numeral.Denotes ['+', '0', '7'] 7 := ⟨.plus, ['0', '7'], ⟨rfl, nofun, zeroSeven⟩, rfl⟩
  have ofShard : Numeral.Denotes ['3'] 3 := ⟨.absent, ['3'], ⟨rfl, nofun, three⟩, rfl⟩
  have read : ofString "+07/3" = .ok ⟨7, 3⟩ :=
    (reads _ _).mpr ⟨_, _, parts, ofLocal, ofShard, ⟨by decide, by decide⟩⟩
  refine ⟨read, ?_⟩
  rw [Ne, writes _ _ _ _ read parts]
  rintro ⟨⟨sign, digits, spells, plain⟩, -⟩
  cases sign with
  | plus => exact plain.noPlus rfl
  | minus => cases spells.parts
  | absent =>
    have whole : ['+', '0', '7'] = digits := spells.parts
    have digit := spells.decimal '+' (whole ▸ List.mem_cons_self)
    simp at digit

end LeaseQueue.MessageId
