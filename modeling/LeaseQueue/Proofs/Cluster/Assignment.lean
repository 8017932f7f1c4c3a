import LeaseQueue.Cluster.Shard
import Mathlib.Data.List.Nodup

/-!
The first owners of the shards. Whatever is drawn, every shard of the cluster gets one owner out of the nodes.
-/
namespace LeaseQueue

namespace RandomSource

theorem belowWithin_lt {width count : Nat} (positive : 0 < count) (tries : Nat) (source : RandomSource) :
    (belowWithin width count tries source).1 < count := by
  induction tries generalizing source with
  | zero => exact positive
  | succ tries ih =>
    unfold belowWithin
    dsimp only
    split
    · refine Nat.div_lt_of_lt_mul ?_
      exact Nat.mul_lt_mul_of_pos_right (Nat.mod_lt _ (Nat.pow_pos Nat.two_pos)) positive
    · exact ih _

/-- A draw from a range takes some number of tries, which is too large to be computed. -/
theorem exists_tries (width count : Nat) (source : RandomSource) :
    ∃ tries, source.below width count = belowWithin width count tries source :=
  ⟨_, rfl⟩

/-- What is drawn from a range lies in it. -/
theorem below_spec {count : Nat} (width : Nat) (positive : 0 < count) (source : RandomSource) :
    ∃ drawn rest, source.below width count = (drawn, rest) ∧ drawn < count := by
  obtain ⟨tries, same⟩ := exists_tries width count source
  exact ⟨_, _, same, belowWithin_lt positive tries source⟩

/-- A choice among some items is one of them. -/
theorem exists_choose {α : Type} {items : List α} (filled : items ≠ []) (source : RandomSource) :
    ∃ item ∈ items, (source.choose? items).1 = some item := by
  obtain ⟨index, rest, drawn, less⟩ := below_spec 32 (List.length_pos_iff.mpr filled) source
  unfold choose?
  rw [if_neg (mt List.isEmpty_iff.mp filled), drawn]
  exact ⟨_, List.getElem_mem less, List.getElem?_eq_getElem less⟩

end RandomSource

/-- The records name the shards in order, each stable under one of the nodes. -/
structure Assigns (nodes : List String) (numbers : List Int) (records : List ShardRecord) : Prop where
  numbers : records.map ShardRecord.shard = numbers
  owned : ∀ record ∈ records, ∃ owner ∈ nodes, record = .ownedBy record.shard owner

theorem assignShards_assigns {nodes : List String} (filled : nodes ≠ []) (numbers : List Int) (source : RandomSource) :
    Assigns nodes numbers (assignShards nodes numbers source).1 := by
  induction numbers generalizing source with
  | nil => exact ⟨rfl, nofun⟩
  | cons shard rest ih =>
    obtain ⟨owner, member, chosen⟩ := RandomSource.exists_choose filled source
    unfold assignShards
    rcases drawn : source.choose? nodes with ⟨choice, after⟩
    rw [drawn] at chosen
    obtain rfl : choice = some owner := chosen
    obtain ⟨same, owned⟩ := ih after
    exact ⟨congrArg (shard :: ·) same, List.forall_mem_cons.mpr ⟨⟨owner, member, rfl⟩, owned⟩⟩

/-- Where no shard comes twice, the owner of a shard is a node, and that of its only record. -/
theorem Assigns.owner {nodes : List String} {numbers : List Int} {records : List ShardRecord}
    (assigns : Assigns nodes numbers records) (distinct : numbers.Nodup) {record : ShardRecord}
    (member : record ∈ records) : record.producer ∈ nodes ∧
      ∀ other, other ∈ records ∧ other.shard = record.shard ↔ other = .ownedBy record.shard record.producer := by
  obtain ⟨owner, known, same⟩ := assigns.owned record member
  have itself : .ownedBy record.shard record.producer = record := by rw [same]; rfl
  have producer : record.producer = owner := by rw [same]; rfl
  refine ⟨producer ▸ known, fun other => ?_⟩
  rw [itself]
  rw [← assigns.numbers] at distinct
  constructor
  · rintro ⟨present, together⟩
    exact List.inj_on_of_nodup_map distinct present member together
  · rintro rfl
    exact ⟨member, rfl⟩

theorem mem_allShards {shard count : Int} : shard ∈ allShards count ↔ 1 ≤ shard ∧ shard ≤ count := by
  unfold allShards
  rw [List.mem_map]
  constructor
  · rintro ⟨index, member, rfl⟩
    have less := List.mem_range.mp member
    omega
  · rintro ⟨lower, upper⟩
    exact ⟨(shard - 1).toNat, List.mem_range.mpr (by omega), by omega⟩

theorem allShards_nodup (count : Int) : (allShards count).Nodup := by
  unfold allShards
  refine List.pairwise_map.mpr (List.nodup_range.imp ?_)
  omega

end LeaseQueue
