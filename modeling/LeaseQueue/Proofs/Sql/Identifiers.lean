import LeaseQueue.Proofs.Queue.Columns
import LeaseQueue.Proofs.Sql.Mutating
import LeaseQueue.Sql.ClusterStatements
import Mathlib.Data.List.Nodup

/-!
Identifiers as a database keeps them. Those without quotes are kept in lower case and cut at a number of bytes. No
accepted name is cut, but names that differ in case only become one, and a column with a capital letter comes back under
another name than it is read by.
-/
namespace LeaseQueue

/-- A text in lower case. -/
def folded (text : String) : String := String.ofList (text.toList.map Char.toLower)

/-- No letter of the text is a capital. -/
def Uncased (text : String) : Prop := ∀ c ∈ text.toList, c.isUpper = false

instance (text : String) : Decidable (Uncased text) := List.decidableBAll _ _

namespace Sql

/-- The bytes of an identifier that are kept. -/
def identifierLimit : Nat := 63

/-- The front of a text that fits in some bytes; no character of it is cut in two. -/
def clip (room : Nat) : List Char → List Char
  | [] => []
  | c :: rest => if c.utf8Size ≤ room then c :: clip (room - c.utf8Size) rest else []

/-- An identifier without quotes as the database keeps it. -/
def stored (identifier : String) : String := String.ofList (clip identifierLimit (folded identifier).toList)

end Sql

variable {c : Char} {text : String}

/-! Symbols of names are ASCII characters. -/

/-- What holds of all ASCII characters holds of symbols. -/
theorem isNameSymbol_induction (holds : Char → Prop) (ascii : ∀ n < 128, holds (Char.ofNat n))
    (symbol : isNameSymbol c) : holds c := by
  have each := ascii c.toNat (isNameSymbol_small symbol)
  rwa [Char.ofNat_toNat] at each

theorem utf8Size_of_symbol (symbol : isNameSymbol c) : c.utf8Size = 1 :=
  isNameSymbol_induction (fun c => c.utf8Size = 1) (by decide) symbol

theorem utf8Size_toLower (symbol : isNameSymbol c) : c.toLower.utf8Size = 1 :=
  isNameSymbol_induction (fun c => c.toLower.utf8Size = 1) (by decide) symbol

theorem toLower_eq_self_iff (symbol : isNameSymbol c) : c.toLower = c ↔ c.isUpper = false :=
  isNameSymbol_induction (fun c => c.toLower = c ↔ c.isUpper = false) (by decide) symbol

theorem toLower_eq_underscore (symbol : isNameSymbol c) : c.toLower = '_' → c = '_' :=
  isNameSymbol_induction (fun c => c.toLower = '_' → c = '_') (by decide) symbol

theorem isUpper_toLower (symbol : isNameSymbol c) : c.toLower.isUpper = false :=
  isNameSymbol_induction (fun c => c.toLower.isUpper = false) (by decide) symbol

theorem utf8ByteSize_ofList {chars : List Char} (bytes : ∀ c ∈ chars, c.utf8Size = 1) :
    (String.ofList chars).utf8ByteSize = chars.length := by
  induction chars with
  | nil => rfl
  | cons c rest ih =>
    obtain ⟨byte, others⟩ := List.forall_mem_cons.mp bytes
    have parts : String.ofList (c :: rest) = String.singleton c ++ String.ofList rest := by
      rw [← String.toList_inj, String.toList_append, String.toList_singleton, String.toList_ofList, String.toList_ofList]
      rfl
    rw [parts, String.utf8ByteSize_append, String.utf8ByteSize_singleton, byte, ih others, List.length_cons, Nat.add_comm]

theorem utf8ByteSize_of_symbols (symbols : text.toList.all isNameSymbol) : text.utf8ByteSize = text.toList.length := by
  have bytes : ∀ c ∈ text.toList, c.utf8Size = 1 :=
    fun c member => utf8Size_of_symbol (List.all_eq_true.mp symbols c member)
  rw [← utf8ByteSize_ofList bytes, String.ofList_toList]

/-! Folding. -/

@[simp]
theorem toList_folded : (folded text).toList = text.toList.map Char.toLower := String.toList_ofList

theorem folded_append (first second : String) : folded (first ++ second) = folded first ++ folded second := by
  rw [← String.toList_inj]
  simp

theorem folded_eq_self_iff (symbols : text.toList.all isNameSymbol) : folded text = text ↔ Uncased text := by
  have each (c : Char) (member : c ∈ text.toList) : c.toLower = id c ↔ c.isUpper = false :=
    toLower_eq_self_iff (List.all_eq_true.mp symbols c member)
  have kept : text.toList.map Char.toLower = text.toList.map id ↔ ∀ c ∈ text.toList, c.toLower = id c :=
    List.map_inj_left
  rw [List.map_id] at kept
  rw [← String.toList_inj, toList_folded, kept]
  exact forall₂_congr each

theorem uncased_folded (symbols : text.toList.all isNameSymbol) : Uncased (folded text) := by
  intro c member
  rw [toList_folded] at member
  obtain ⟨original, listed, rfl⟩ := List.mem_map.mp member
  exact isUpper_toLower (List.all_eq_true.mp symbols original listed)

theorem FieldName.column_injective : Function.Injective FieldName.column := by
  intro first second same
  have text : first.text = second.text := String.append_right_inj _ |>.mp same
  cases first
  cases second
  cases text
  rfl

namespace Sql

/-- A text of one-byte characters that is not too long is not cut. -/
theorem clip_of_length {room : Nat} {chars : List Char} (bytes : ∀ c ∈ chars, c.utf8Size = 1)
    (short : chars.length ≤ room) : clip room chars = chars := by
  induction chars generalizing room with
  | nil => rfl
  | cons c rest ih =>
    obtain ⟨byte, others⟩ := List.forall_mem_cons.mp bytes
    rw [List.length_cons] at short
    rw [clip, byte, if_pos (by omega), ih others (by omega)]

/-- A name behind its prefix is folded as a whole. -/
theorem stored_append {lead : String} (fixed : folded lead = lead)
    (bytes : lead.toList.all fun c => c.utf8Size = 1) (symbols : text.toList.all isNameSymbol)
    (short : lead.toList.length + text.utf8ByteSize ≤ identifierLimit) :
    stored (lead ++ text) = lead ++ folded text := by
  unfold stored
  rw [folded_append, fixed, clip_of_length, String.ofList_toList]
  · intro c member
    rw [String.toList_append, toList_folded] at member
    rcases List.mem_append.mp member with front | inside
    · exact of_decide_eq_true (List.all_eq_true.mp bytes c front)
    · obtain ⟨original, listed, rfl⟩ := List.mem_map.mp inside
      exact utf8Size_toLower (List.all_eq_true.mp symbols original listed)
  · rw [String.toList_append, toList_folded, List.length_append, List.length_map, ← utf8ByteSize_of_symbols symbols]
    exact short

theorem stored_table (name : QueueName) : stored name.table = "q_" ++ folded name.text := by
  refine stored_append (by decide) (by decide) name.symbols ?_
  have accepted := name.accepted
  have short : name.text.utf8ByteSize ≤ queueNameMaxLength := by
    unfold queueNameFault? at accepted
    grind
  exact Nat.add_le_add_left short 2

theorem stored_column (field : FieldName) : stored field.column = "meta_" ++ folded field.text := by
  refine stored_append (by decide) (by decide) field.symbols ?_
  have accepted := field.accepted
  have short : field.text.utf8ByteSize ≤ fieldNameMaxLength := by
    unfold fieldNameFault? at accepted
    grind
  exact Nat.add_le_add_left short 5

theorem stored_table_inj {first second : QueueName} :
    stored first.table = stored second.table ↔ folded first.text = folded second.text := by
  rw [stored_table, stored_table, String.append_right_inj]

theorem stored_column_inj {first second : FieldName} :
    stored first.column = stored second.column ↔ folded first.text = folded second.text := by
  rw [stored_column, stored_column, String.append_right_inj]

theorem stored_column_eq_self_iff (field : FieldName) : stored field.column = field.column ↔ Uncased field.text := by
  rw [stored_column, FieldName.column, metaColumnPrefix, String.append_right_inj, folded_eq_self_iff field.symbols]

/-- Behind the prefix of the internal tables there is an underscore, with which no name begins. -/
theorem stored_table_ne (name : QueueName) {rest : String} : stored name.table ≠ "q__" ++ rest := by
  rw [stored_table]
  intro same
  have chars : ("q_" ++ folded name.text).toList = ("q__" ++ rest).toList := congrArg String.toList same
  rw [String.toList_append, toList_folded, String.toList_append] at chars
  have same : "q_".toList ++ name.text.toList.map Char.toLower = "q_".toList ++ '_' :: rest.toList := chars
  have front := List.append_cancel_left same
  have accepted := name.accepted
  cases shape : name.text.toList with
  | nil => exact name.filled shape
  | cons c others =>
    rw [shape, List.map_cons, List.cons.injEq] at front
    have symbol : isNameSymbol c := List.all_eq_true.mp name.symbols c (shape ▸ List.mem_cons_self)
    have underscore : c = '_' := toLower_eq_underscore symbol front.1
    unfold queueNameFault? at accepted
    simp [shape, underscore] at accepted

/-- Only metadata columns begin with the letter of their prefix. -/
theorem meta_ne (rest : String) (column : MessageColumn) : "meta_" ++ rest ≠ column.text := by
  intro same
  have first : column.text.toList.head? = some 'm' := by
    rw [← same, String.toList_append]
    rfl
  cases column <;> exact absurd first (by decide)

theorem stored_message_column (column : MessageColumn) : stored column.text = column.text := by cases column <;> decide

theorem stored_column_ne (field : FieldName) (column : MessageColumn) : stored field.column ≠ stored column.text := by
  rw [stored_column, stored_message_column]
  exact meta_ne _ column

/-! Rows that come back. -/

/-- The row has the names that the database has for some columns. -/
def Row.NamedFor (columns : List String) (row : Row) : Prop := row.map Prod.fst = columns.map stored

theorem Row.cell?_of_nodup {row : Row} {name : String} {cell : Cell} (distinct : (row.map Prod.fst).Nodup)
    (member : (name, cell) ∈ row) : row.cell? name = some cell := by
  obtain ⟨before, after, rfl⟩ := List.append_of_mem member
  rw [List.map_append, List.map_cons, List.nodup_append, List.nodup_cons] at distinct
  refine List.lookup_eq_some_iff.mpr ⟨after.reverse, before.reverse, by simp, fun other later => ?_⟩
  rw [bne_iff_ne]
  intro same
  have listed : other.1 ∈ after.map Prod.fst := List.mem_map_of_mem (List.mem_reverse.mp later)
  exact distinct.2.1.1 (same ▸ listed)

theorem Row.cell?_eq_none {row : Row} {name : String} (absent : name ∉ row.map Prod.fst) : row.cell? name = none := by
  refine List.lookup_eq_none_iff.mpr fun other member => ?_
  rw [bne_iff_ne]
  rintro rfl
  exact absent (List.mem_map_of_mem (List.mem_reverse.mp member))

variable {queue : Queue} {row : Row} {declared : MetaColumn}

theorem mem_leasedColumns {column : String} (member : column ∈ leasedColumns queue) :
    (∃ fixed : MessageColumn, fixed.text = column) ∨ ∃ declared ∈ queue.columns, declared.field.column = column := by
  rcases List.mem_append.mp member with fixed | declared
  · obtain ⟨fixed, _, same⟩ := List.mem_map.mp fixed
    exact .inl ⟨fixed, same⟩
  · exact .inr (List.mem_map.mp declared)

theorem stored_leasedColumns (plain : ∀ declared ∈ queue.columns, Uncased declared.field.text) :
    (leasedColumns queue).map stored = leasedColumns queue := by
  have each : ∀ column ∈ leasedColumns queue, stored column = id column := by
    intro column member
    rcases mem_leasedColumns member with ⟨fixed, rfl⟩ | ⟨declared, listed, rfl⟩
    · exact stored_message_column fixed
    · exact (stored_column_eq_self_iff declared.field).mpr (plain declared listed)
  rw [List.map_congr_left each, List.map_id]

theorem nodup_leasedColumns (distinct : (queue.columns.map MetaColumn.field).Nodup) : (leasedColumns queue).Nodup := by
  refine List.nodup_append.mpr ⟨by decide, ?_, fun column fixed other declared same => ?_⟩
  · have columns : queue.columns.map (fun column => column.field.column) =
        (queue.columns.map MetaColumn.field).map FieldName.column := by simp
    rw [columns]
    exact distinct.map FieldName.column_injective
  · obtain ⟨standard, _, rfl⟩ := List.mem_map.mp fixed
    obtain ⟨declared, _, rfl⟩ := List.mem_map.mp declared
    exact meta_ne _ standard same.symm

/-- A column with a capital letter is not among the columns of the row. -/
theorem capital_not_mem (given : row.NamedFor (leasedColumns queue)) {field : FieldName}
    (capital : ¬ Uncased field.text) : field.column ∉ row.map Prod.fst := by
  rw [given]
  intro member
  obtain ⟨column, listed, same⟩ := List.mem_map.mp member
  rcases mem_leasedColumns listed with ⟨fixed, rfl⟩ | ⟨declared, _, rfl⟩
  · rw [stored_message_column] at same
    exact meta_ne _ fixed same.symm
  · rw [stored_column, FieldName.column, metaColumnPrefix, String.append_right_inj] at same
    exact capital (same ▸ uncased_folded declared.field.symbols)

/-- All columns could be read if the metadata could be. -/
theorem readMeta_ok {columns : List MetaColumn} {metadata : Meta} (read : Action.readMeta row columns = .ok metadata)
    (member : declared ∈ columns) :
    ∃ found, row.optional declared.field.column (Cell.value? declared.type) = .ok found := by
  induction columns generalizing metadata with
  | nil => cases member
  | cons first rest ih =>
    obtain ⟨found, here, others⟩ := exists_of_bind_ok read
    rcases List.mem_cons.mp member with rfl | later
    · exact ⟨found, here⟩
    · obtain ⟨_, after, _⟩ := exists_of_bind_ok others
      exact ih after later

theorem readMessage_ok {message : LeasedMessage} (read : Action.readMessage queue row = .ok message)
    (member : declared ∈ queue.columns) : row.cell? declared.field.column ≠ none := by
  obtain ⟨_, _, shard⟩ := exists_of_bind_ok read
  obtain ⟨_, _, metadata⟩ := exists_of_bind_ok shard
  obtain ⟨_, found, _⟩ := exists_of_bind_ok metadata
  obtain ⟨_, here⟩ := readMeta_ok found member
  intro absent
  unfold Row.optional at here
  rw [absent] at here
  cases here

/-- What is read of a row that has the names that the database has for the columns of a message. -/
structure ReadBack (queue : Queue) (row : Row) : Prop where
  /-- Without capital letters each column is found in its place. -/
  found : (∀ declared ∈ queue.columns, Uncased declared.field.text) → ∀ (place : Nat) (column : String),
    (leasedColumns queue)[place]? = some column → row.cell? column = row[place]?.map Prod.snd
  lost : ∀ declared ∈ queue.columns, ¬ Uncased declared.field.text →
    row.cell? declared.field.column = none ∧ ∀ message, Action.readMessage queue row ≠ .ok message

theorem readBack (given : row.NamedFor (leasedColumns queue)) (distinct : (queue.columns.map MetaColumn.field).Nodup) :
    ReadBack queue row where
  found plain place column here := by
    have names : row.map Prod.fst = leasedColumns queue := given.trans (stored_leasedColumns plain)
    have name : row[place]?.map Prod.fst = some column := by rw [← List.getElem?_map, names, here]
    obtain ⟨⟨named, cell⟩, there, rfl⟩ := Option.map_eq_some_iff.mp name
    rw [there, Option.map_some]
    exact Row.cell?_of_nodup (names ▸ nodup_leasedColumns distinct) (List.mem_of_getElem? there)
  lost declared member capital := by
    have absent : row.cell? declared.field.column = none := Row.cell?_eq_none (capital_not_mem given capital)
    exact ⟨absent, fun message read => readMessage_ok read member absent⟩

/-- What the database makes of accepted names, apart from rows. -/
structure KeptUpToCase : Prop where
  /-- Nothing is cut. -/
  whole : (∀ name : QueueName, stored name.table = folded name.table) ∧
    ∀ field : FieldName, stored field.column = folded field.column
  tables : ∀ first second : QueueName, stored first.table = stored second.table ↔ folded first.text = folded second.text
  internal : ∀ name : QueueName, stored name.table ≠ stored nodeTable ∧ stored name.table ≠ stored shardTable
  columns : ∀ first second : FieldName,
    stored first.column = stored second.column ↔ folded first.text = folded second.text
  standard : ∀ (field : FieldName) (column : MessageColumn), stored field.column ≠ stored column.text
  unchanged : ∀ field : FieldName, stored field.column = field.column ↔ Uncased field.text

theorem keptUpToCase : KeptUpToCase where
  whole := by
    refine ⟨fun name => ?_, fun field => ?_⟩
    · rw [stored_table, QueueName.table, folded_append]
      rfl
    · rw [stored_column, FieldName.column, folded_append]
      rfl
  tables first second := stored_table_inj
  internal name := by
    have node : stored nodeTable = "q__" ++ "node" := by decide +kernel
    have shard : stored shardTable = "q__" ++ "shard" := by decide +kernel
    rw [node, shard]
    exact ⟨stored_table_ne name, stored_table_ne name⟩
  columns first second := stored_column_inj
  standard := stored_column_ne
  unchanged := stored_column_eq_self_iff

/-- Accepted names are kept apart, and are kept as they are, up to the case of their letters; and a queue whose fields
have no capital letters finds its columns in the rows that come back, while any other one reads no message. -/
theorem accepted_names_kept_up_to_case (given : row.NamedFor (leasedColumns queue))
    (distinct : (queue.columns.map MetaColumn.field).Nodup) : KeptUpToCase ∧ ReadBack queue row :=
  ⟨keptUpToCase, readBack given distinct⟩

/-- A leased message with some metadata as the database returns it. -/
def leasedRow (metadata : Row) : Row :=
  [("id", .value (.bigInt 5)), ("shard", .value (.int 1)), ("created_at", .time 0), ("processing_at", .time 0),
    ("scheduled_at", .time 0), ("remaining_attempts", .value (.int 4)), ("data", .bytes .empty)] ++ metadata

/-- An atlas has a scale and the year in which it came out. -/
def atlases : Queue :=
  ((Queue.named ⟨"atlases", by decide +kernel⟩).withField ⟨"scale", by decide +kernel⟩ .text).withField
    ⟨"year", by decide +kernel⟩ .int

theorem year_read_back :
    let row := leasedRow [("meta_scale", .null), ("meta_year", .value (.int 1871))]
    row.NamedFor (leasedColumns atlases) ∧ (atlases.columns.map MetaColumn.field).Nodup ∧
      row.cell? "meta_year" = some (.value (.int 1871)) := by
  intro row
  have given : row.NamedFor (leasedColumns atlases) := by
    unfold Row.NamedFor
    decide +kernel
  have distinct : (atlases.columns.map MetaColumn.field).Nodup := by decide +kernel
  obtain ⟨_, found, _⟩ := accepted_names_kept_up_to_case given distinct
  exact ⟨given, distinct, found (by decide +kernel) 8 "meta_year" rfl⟩

def shouted : QueueName := ⟨"Errands", by decide +kernel⟩

def whispered : QueueName := ⟨"errands", by decide +kernel⟩

def capitalYear : FieldName := ⟨"Year", by decide +kernel⟩

/-- Two names of queues have one table, and a column with a capital letter cannot be read back. -/
theorem capital_letters_lost :
    let row := leasedRow [("meta_year", .value (.int 1871))]
    shouted ≠ whispered ∧ stored shouted.table = stored whispered.table ∧
    stored capitalYear.column ≠ capitalYear.column ∧
    row.NamedFor (leasedColumns ((Queue.named whispered).withField capitalYear .int)) ∧
    Action.readMessage ((Queue.named whispered).withField capitalYear .int) row =
      .error (.persistence (.unreadable "meta_Year")) := by
  refine ⟨by decide +kernel, by decide +kernel, by decide +kernel, ?_, rfl⟩
  unfold Row.NamedFor
  decide +kernel

end Sql

end LeaseQueue
