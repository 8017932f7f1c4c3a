import LeaseQueue.Proofs.Running
import LeaseQueue.Proofs.Sql.Meaning
import LeaseQueue.Sql.Cluster

/-!
Who owns a shard. A record is accepted exactly if the check of the shard table lets its row pass, so that a shard has
one producer in memory and in the database, and no other node consumes from it.
-/
namespace LeaseQueue

namespace Sql

/-! The check of the shard table, read from its text. -/

/-- The condition on the owners of a row. -/
def shardCheck : String := s!"{stableForm.text} OR\n" ++ s!"            {migratingForm.text}"

/-- The check stands behind the columns of the table. -/
theorem createShardTable_check : ∃ columns, createShardTable = columns ++ "        CHECK (\n" ++ "            " ++
    shardCheck ++ "\n" ++ "        )\n" ++ "    )\n" := by
  refine ⟨s!"\n    CREATE TABLE IF NOT EXISTS {shardTable} (\n" ++
    "        shard              INT          NOT NULL PRIMARY KEY,\n" ++
    "        producer_node      VARCHAR(100) NOT NULL,\n" ++
    "        consumer_node      VARCHAR(100),\n" ++
    "        next_consumer_node VARCHAR(100),\n", ?_⟩
  unfold createShardTable shardCheck
  simp only [String.append_assoc, -String.reduceAppend]
  rfl

/-- The owners of a row of the shard table, null where there is none. -/
abbrev Owners := OwnerColumn → Option String

/-- Writes an owner to a row, or leaves it null. -/
def OwnerColumn.write (column : OwnerColumn) (owner : Option String) (row : Meta) : Meta :=
  owner.elim row fun node => row.insert column.text (.text node)

def Owners.row (owners : Owners) : Meta :=
  [OwnerColumn.producer, .consumer, .nextConsumer].foldl (fun row column => column.write (owners column) row) ∅

/-- What the check says of a row. -/
def Owners.checked? (owners : Owners) : Option Truth := evaluateText? owners.row (fun _ => none) (oneLine shardCheck)

/-- What a form is read as: the owner is there and it is the producer, and the other one is not there. -/
def OwnerColumn.form (owner other : OwnerColumn) : Formula :=
  .and (.isNotNull (.column owner.text)) (.and
    (.compare (.column OwnerColumn.producer.text) .eq (.column owner.text)) (.isNull (.column other.text)))

theorem shardCheck_formula : Formula.ofText? (oneLine shardCheck) =
    some (.or (OwnerColumn.consumer.form .nextConsumer) (OwnerColumn.nextConsumer.form .consumer)) := by
  unfold Formula.ofText? oneLine shardCheck stableForm migratingForm OwnerForm.text OwnerTest.text OwnerColumn.text
  -- The kernel reads characters faster than it decodes a long text, so the text is taken apart first.
  simp only [toString, String.toList_append, String.toList_ofList, String.reduceToList, List.cons_append,
    List.nil_append]
  decide +kernel

theorem OwnerColumn.text_injective {column other : OwnerColumn} (same : column.text = other.text) : column = other := by
  revert same
  cases column <;> cases other <;> decide

theorem OwnerColumn.getElem?_write (column other : OwnerColumn) (owner : Option String) (row : Meta) :
    (column.write owner row)[other.text]? =
      if column = other then (owner.map .text).or row[other.text]? else row[other.text]? := by
  cases owner with
  | none => simp [write]
  | some node =>
    rw [write, Option.elim_some, Std.ExtTreeMap.getElem?_insert]
    by_cases same : column = other
    · simp [same]
    · simp [same, mt OwnerColumn.text_injective same]

theorem Owners.getElem?_row (owners : Owners) (column : OwnerColumn) :
    owners.row[column.text]? = (owners column).map .text := by
  cases column <;> simp [Owners.row, OwnerColumn.getElem?_write]

/-- Texts are equal in the database exactly if they are the same text. -/
theorem compare?_texts (x y : String) :
    Relation.eq.compare? (some (.text x)) (some (.text y)) = some (some (x == y)) := by
  have equal : (compare x y == Ordering.eq) = (x == y) := by
    rw [Bool.eq_iff_iff, beq_iff_eq, beq_iff_eq, Std.LawfulEqCmp.compare_eq_iff_eq]
  have held : Relation.eq.holds? (.text x) (.text y) = some (compareBytes (textBytes x) (textBytes y) == .eq) := rfl
  change (Relation.eq.holds? (.text x) (.text y)).map some = _
  rw [held, compareBytes_eq, equal]
  rfl

/-- A form is never unknown, for an owner that is null fails its first test. -/
theorem form_truth (owners : Owners) {producer : String} (produced : owners .producer = some producer)
    (owner other : OwnerColumn) : (owner.form other).evaluate? owners.row (fun _ => none) =
      some (some (owners owner == some producer && (owners other).isNone)) := by
  have value (column : OwnerColumn) : Term.value? owners.row (fun _ => none) (.column column.text) =
      some ((owners column).map .text) := congrArg some (owners.getElem?_row column)
  simp only [OwnerColumn.form, Formula.evaluate?, value, produced, Option.map_some]
  cases owners owner with
  | none => cases owners other <;> rfl
  | some node =>
    have swapped : (producer == node) = (node == producer) := BEq.comm
    simp only [Option.map_some, Option.bind_eq_bind, Option.bind_some, compare?_texts, swapped, Option.some_beq_some]
    cases owners other <;> cases node == producer <;> rfl

end Sql

namespace ShardRecord

variable {record other : ShardRecord}

/-- The owners as the shard table has them. -/
def owners (record : ShardRecord) : Sql.Owners
  | .producer => some record.producer
  | .consumer => record.consumer
  | .nextConsumer => record.nextConsumer

/-- The check lets a row pass unless it is false of it. -/
def Passes (record : ShardRecord) : Prop := ∃ truth, record.owners.checked? = some truth ∧ truth ≠ some false

/-- The owners are those of a stable or of a migrating shard. -/
def Accepted (record : ShardRecord) : Prop :=
  (record.consumer = some record.producer ∧ record.nextConsumer = none) ∨
    (record.consumer = none ∧ record.nextConsumer = some record.producer)

theorem accepted_iff : record.Accepted ↔ (record.isStable || record.isMigrating) = true := by
  unfold Accepted isStable isMigrating
  rw [Bool.or_eq_true, Bool.and_eq_true, Bool.and_eq_true, beq_iff_eq, beq_iff_eq, Option.isNone_iff_eq_none,
    Option.isNone_iff_eq_none, and_comm (a := record.consumer = none)]

/-- No shard is stable while it migrates. -/
theorem isMigrating_of_isStable (stable : record.isStable = true) : record.isMigrating = false := by
  unfold isStable at stable
  unfold isMigrating
  rw [Bool.and_eq_true, beq_iff_eq] at stable
  rw [stable.1, Option.isNone_some, Bool.and_false]

theorem ofOwners_eq_ok_iff {shard : Int} {producer : String} {consumer nextConsumer : Option String} :
    ofOwners shard producer consumer nextConsumer = .ok record ↔
      record = ⟨shard, producer, consumer, nextConsumer⟩ ∧ record.Accepted := by
  have decided (given : ShardRecord) : (given.isStable == given.isMigrating) = false ↔ given.Accepted := by
    rw [accepted_iff]
    cases stable : given.isStable with
    | true => rw [isMigrating_of_isStable stable]; decide
    | false => cases given.isMigrating <;> decide
  unfold ofOwners
  dsimp only
  split
  · rename_i refused
    refine iff_of_false nofun ?_
    rintro ⟨rfl, accepted⟩
    rw [(decided _).mpr accepted] at refused
    cases refused
  · rename_i passed
    have accepted := (decided _).mp (Bool.eq_false_iff.mpr passed)
    constructor
    · rintro same
      cases same
      exact ⟨rfl, accepted⟩
    · rintro ⟨rfl, _⟩
      rfl

/-- The check is never unknown. -/
theorem checked?_owners (record : ShardRecord) :
    record.owners.checked? = some (some (record.isStable || record.isMigrating)) := by
  have producer : record.owners .producer = some record.producer := rfl
  have stable := Sql.form_truth record.owners producer .consumer .nextConsumer
  have migrating := Sql.form_truth record.owners producer .nextConsumer .consumer
  unfold Sql.Owners.checked? Sql.evaluateText?
  rw [Sql.shardCheck_formula, Option.bind_some, Sql.Formula.evaluate?, stable, migrating]
  change some (Truth.or (some record.isStable) (some record.isMigrating)) = _
  cases record.isStable <;> cases record.isMigrating <;> rfl

theorem passes_iff : record.Passes ↔ record.Accepted := by
  unfold Passes
  rw [accepted_iff, checked?_owners]
  cases record.isStable || record.isMigrating <;> simp

theorem Accepted.ownership (accepted : record.Accepted) : record.ownership =
    if record.consumer.isSome then .stable record.producer else .migrating record.producer record.producer := by
  unfold ShardRecord.ownership
  rcases accepted with ⟨consumes, next⟩ | ⟨consumes, next⟩ <;> rw [consumes, next] <;> rfl

/-- Whoever consumes from a shard produces into it. -/
theorem Accepted.producer {node : String} (accepted : record.Accepted) (consumes : record.consumer = some node) :
    record.producer = node := by
  rcases accepted with ⟨owned, _⟩ | ⟨absent, _⟩
  · exact Option.some.inj (owned.symm.trans consumes)
  · cases absent.symm.trans consumes

end ShardRecord

namespace ShardMap

variable {shards : ShardMap} {shard : Int} {node : String}

/-- Every record stands under the number of its shard, and each is accepted. -/
structure Sound (shards : ShardMap) : Prop where
  keyed : ∀ (shard : Int) (record : ShardRecord), shards[shard]? = some record → record.shard = shard
  accepted : ∀ (shard : Int) (record : ShardRecord), shards[shard]? = some record → record.Accepted

theorem values_eq (shards : ShardMap) : shards.values = shards.toList.map Prod.snd := by
  obtain ⟨⟨table⟩⟩ := shards
  induction table using Quotient.inductionOn with
  | _ table =>
    change table.inner.values = (Std.DTreeMap.Internal.Impl.Const.toList table.inner).map Prod.snd
    rw [Std.DTreeMap.Internal.Impl.values_eq_map_snd, Std.DTreeMap.Internal.Impl.Const.toList_eq_toListModel_map,
      List.map_map]
    rfl

/-- The numbers of the records that are picked out are in order. -/
theorem numbers_ascending (sound : shards.Sound) (picks : ShardRecord → Bool) :
    ((shards.values.filter picks).map ShardRecord.shard).Pairwise (· < ·) := by
  have ordered : shards.toList.Pairwise fun first second => first.2.shard < second.2.shard := by
    refine Std.ExtTreeMap.ordered_keys_toList.imp_of_mem fun {first second} one two less => ?_
    rw [sound.keyed _ _ (Std.ExtTreeMap.mem_toList_iff_getElem?_eq_some.mp one),
      sound.keyed _ _ (Std.ExtTreeMap.mem_toList_iff_getElem?_eq_some.mp two)]
    exact Int.compare_eq_lt.mp less
  have listed : (shards.toList.map Prod.snd).Pairwise fun first second => first.shard < second.shard :=
    List.pairwise_map.mpr ordered
  rw [values_eq, List.pairwise_map]
  exact listed.filter picks

theorem mem_numbers (sound : shards.Sound) (picks : ShardRecord → Bool) :
    shard ∈ (shards.values.filter picks).map ShardRecord.shard ↔
      ∃ record, shards[shard]? = some record ∧ picks record = true := by
  simp only [values_eq, List.mem_map, List.mem_filter]
  constructor
  · rintro ⟨record, ⟨⟨⟨number, held⟩, present, rfl⟩, picked⟩, rfl⟩
    have found := Std.ExtTreeMap.mem_toList_iff_getElem?_eq_some.mp present
    exact ⟨held, by rw [sound.keyed _ _ found]; exact found, picked⟩
  · rintro ⟨record, found, picked⟩
    exact ⟨record, ⟨⟨_, Std.ExtTreeMap.mem_toList_iff_getElem?_eq_some.mpr found, rfl⟩, picked⟩, sound.keyed _ _ found⟩

theorem mem_producedBy (sound : shards.Sound) :
    shard ∈ shards.producedBy node ↔ ∃ record, shards[shard]? = some record ∧ record.producer = node :=
  (mem_numbers sound _).trans (by simp only [beq_iff_eq])

theorem mem_consumedBy (sound : shards.Sound) :
    shard ∈ shards.consumedBy node ↔ ∃ record, shards[shard]? = some record ∧ record.consumer = some node :=
  (mem_numbers sound _).trans (by simp only [beq_iff_eq])

/-- Records that are accepted make a sound map, whichever of them is kept for a shard. -/
theorem sound_ofRecords {records : List ShardRecord} (accepted : ∀ record ∈ records, record.Accepted) :
    (ofRecords records).Sound := by
  suffices ∀ shards : ShardMap, shards.Sound →
      (records.foldl (fun shards record => shards.insert record.shard record) shards).Sound from
    this ∅ ⟨fun _ _ found => by simp at found, fun _ _ found => by simp at found⟩
  induction records with
  | nil => exact fun _ sound => sound
  | cons record rest ih =>
    obtain ⟨first, others⟩ := List.forall_mem_cons.mp accepted
    intro shards sound
    refine ih others _ ⟨fun number held found => ?_, fun number held found => ?_⟩ <;>
      rw [Std.ExtTreeMap.getElem?_insert] at found <;> split at found
    · rename_i same
      cases found
      exact Std.LawfulEqCmp.eq_of_compare same
    · exact sound.keyed _ _ found
    · cases found
      exact first
    · exact sound.accepted _ _ found

/-- Who has which shards leaves no doubt about any of them. -/
structure Unambiguous (shards : ShardMap) : Prop where
  produced : ∀ shard ∈ shards, ∃ node, ∀ other, shard ∈ shards.producedBy other ↔ other = node
  known : ∀ shard node, shard ∈ shards.producedBy node → shard ∈ shards
  consumed : ∀ shard node, shard ∈ shards.consumedBy node →
    shard ∈ shards.producedBy node ∧ ∀ other, shard ∈ shards.consumedBy other → other = node
  waiting : ∀ shard ∈ shards, (∀ node, shard ∉ shards.consumedBy node) ↔
    ∃ record, shards[shard]? = some record ∧ ∃ producer next, record.ownership = .migrating producer next
  ascending : ∀ node, (shards.producedBy node).Pairwise (· < ·) ∧ (shards.consumedBy node).Pairwise (· < ·)

theorem Sound.unambiguous (sound : shards.Sound) : shards.Unambiguous where
  produced shard there := by
    have found := Std.ExtTreeMap.getElem?_eq_some_getElem there
    refine ⟨shards[shard].producer, fun other => ?_⟩
    rw [mem_producedBy sound, found]
    simp [eq_comm]
  known shard node listed := by
    obtain ⟨record, found, _⟩ := (mem_producedBy sound).mp listed
    exact Std.ExtTreeMap.isSome_getElem?_iff_mem.mp (Option.isSome_of_eq_some found)
  consumed shard node listed := by
    obtain ⟨record, found, consumes⟩ := (mem_consumedBy sound).mp listed
    refine ⟨(mem_producedBy sound).mpr ⟨record, found, (sound.accepted _ _ found).producer consumes⟩, ?_⟩
    intro other also
    obtain ⟨same, again, taken⟩ := (mem_consumedBy sound).mp also
    obtain rfl : record = same := Option.some.inj (found.symm.trans again)
    exact Option.some.inj (taken.symm.trans consumes)
  waiting shard there := by
    have found := Std.ExtTreeMap.getElem?_eq_some_getElem there
    have decoded := (sound.accepted _ _ found).ownership
    simp only [mem_consumedBy sound, found, Option.some.injEq, exists_eq_left']
    rw [decoded]
    cases shards[shard].consumer <;> simp
  ascending node := ⟨numbers_ascending sound _, numbers_ascending sound _⟩

end ShardMap

/-- What is read from the shard table is a sound map. -/
theorem Sql.Action.sound_of_rows {settings : ClusterSettings} {rows : List Sql.Row} {records : List ShardRecord}
    (read : rows.mapM (readShardRow settings) = .ok records) : (ShardMap.ofRecords records).Sound := by
  refine ShardMap.sound_ofRecords fun record member => ?_
  obtain ⟨row, _, made⟩ := exists_of_mem_mapM read member
  obtain ⟨_, _, made⟩ := exists_of_bind_ok made
  obtain ⟨_, _, made⟩ := exists_of_bind_ok made
  obtain ⟨_, _, made⟩ := exists_of_bind_ok made
  obtain ⟨_, _, made⟩ := exists_of_bind_ok made
  obtain ⟨_, _, made⟩ := exists_of_bind_ok made
  exact (ShardRecord.ofOwners_eq_ok_iff.mp made).2

/-- A row is accepted exactly if the check of its table is not false of it, and it is decoded by whether somebody
consumes. Shards with accepted records have one producer and no other consumer. -/
theorem shard_ownership_unambiguous :
    (∃ columns, Sql.createShardTable = columns ++ "        CHECK (\n" ++ "            " ++ Sql.shardCheck ++ "\n" ++
      "        )\n" ++ "    )\n") ∧
    (∀ (shard : Int) (producer : String) (consumer nextConsumer : Option String),
      ((∃ record, ShardRecord.ofOwners shard producer consumer nextConsumer = .ok record) ↔
        (ShardRecord.mk shard producer consumer nextConsumer).Passes) ∧
      ∀ record, ShardRecord.ofOwners shard producer consumer nextConsumer = .ok record →
        record = ⟨shard, producer, consumer, nextConsumer⟩ ∧
        record.ownership = if consumer.isSome then .stable producer else .migrating producer producer) ∧
    ∀ shards : ShardMap, (∀ (shard : Int) (record : ShardRecord), shards[shard]? = some record →
      ShardRecord.ofOwners shard record.producer record.consumer record.nextConsumer = .ok record) →
      shards.Unambiguous := by
  refine ⟨Sql.createShardTable_check, fun shard producer consumer nextConsumer => ⟨?_, ?_⟩, ?_⟩
  · rw [ShardRecord.passes_iff]
    constructor
    · rintro ⟨record, accepted⟩
      obtain ⟨rfl, accepted⟩ := ShardRecord.ofOwners_eq_ok_iff.mp accepted
      exact accepted
    · exact fun accepted => ⟨_, ShardRecord.ofOwners_eq_ok_iff.mpr ⟨rfl, accepted⟩⟩
  · rintro record accepted
    obtain ⟨rfl, accepted⟩ := ShardRecord.ofOwners_eq_ok_iff.mp accepted
    exact ⟨rfl, accepted.ownership⟩
  · intro shards held
    refine ShardMap.Sound.unambiguous ⟨fun shard record found => ?_, fun shard record found => ?_⟩
    · have same := (ShardRecord.ofOwners_eq_ok_iff.mp (held shard record found)).1
      exact congrArg ShardRecord.shard same
    · exact (ShardRecord.ofOwners_eq_ok_iff.mp (held shard record found)).2

/-- A shard that goes over to another node. -/
def handover : ShardRecord := ⟨3, "oak", none, some "oak"⟩

/-- Two stable shards and one that migrates. -/
def grove : ShardMap := .ofRecords [.ownedBy 1 "oak", .ownedBy 2 "elm", handover]

/-- The shard that migrates is waiting for its consumer. -/
theorem grove_unambiguous :
    ShardRecord.ofOwners 3 "oak" none (some "oak") = .ok handover ∧ handover.ownership = .migrating "oak" "oak" ∧
    (∀ (shard : Int) (record : ShardRecord), grove[shard]? = some record →
      ShardRecord.ofOwners shard record.producer record.consumer record.nextConsumer = .ok record) ∧
    grove.Unambiguous := by
  have taken : ShardRecord.ofOwners 3 "oak" none (some "oak") = .ok handover := by decide
  have sound : grove.Sound := ShardMap.sound_ofRecords (by simp [ShardRecord.Accepted, ShardRecord.ownedBy, handover])
  have held (shard : Int) (record : ShardRecord) (found : grove[shard]? = some record) :
      ShardRecord.ofOwners shard record.producer record.consumer record.nextConsumer = .ok record := by
    refine ShardRecord.ofOwners_eq_ok_iff.mpr ⟨?_, sound.accepted shard record found⟩
    rw [← sound.keyed shard record found]
  exact ⟨taken, ((shard_ownership_unambiguous.2.1 3 "oak" none (some "oak")).2 handover taken).2, held,
    shard_ownership_unambiguous.2.2 grove held⟩

end LeaseQueue
