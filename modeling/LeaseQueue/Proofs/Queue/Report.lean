import LeaseQueue.Chunks
import LeaseQueue.Queue.Result

/-!
The books of a batched send. A result names failures by ranges of positions and written messages by their ids; the two
are kept apart, and agree after every chunk.
-/
namespace LeaseQueue

/-- Nothing is lost between the chunks of a batch. -/
theorem flatten_chunks {α : Type} {size : Nat} (positive : size ≠ 0) (xs : List α) : (chunks size xs).flatten = xs := by
  fun_induction chunks size xs with
  | case1 xs done =>
    rcases done with zero | rfl
    · exact absurd zero positive
    · rfl
  | case2 xs more ih => rw [List.flatten_cons, ih, List.take_append_drop]

/-- There are as many chunks as it takes, the last of which may be shorter. -/
theorem length_chunks {α : Type} {size : Nat} (positive : size ≠ 0) (xs : List α) :
    (chunks size xs).length = (xs.length + size - 1) / size := by
  fun_induction chunks size xs with
  | case1 xs done =>
    obtain rfl := done.resolve_left positive
    rw [List.length_nil, List.length_nil, Nat.div_eq_of_lt (by omega)]
  | case2 xs more ih =>
    have filled : xs.length ≠ 0 := fun empty => more (.inr (List.length_eq_zero_iff.mp empty))
    rw [List.length_cons, ih, List.length_drop]
    by_cases last : xs.length ≤ size
    · have none : (xs.length - size + size - 1) / size = 0 := Nat.div_eq_of_lt (by omega)
      have one : (xs.length + size - 1) / size = 1 := Nat.div_eq_of_lt_le (by omega) (by omega)
      rw [none, one]
    · have whole : xs.length + size - 1 = (xs.length - size + size - 1) + size := by omega
      rw [whole, Nat.add_div_right _ (Nat.pos_of_ne_zero positive)]

theorem length_le_of_mem_chunks {α : Type} {size : Nat} {xs chunk : List α} (member : chunk ∈ chunks size xs) :
    chunk.length ≤ size := by
  fun_induction chunks size xs with
  | case1 xs done => cases member
  | case2 xs more ih =>
    rcases List.mem_cons.mp member with rfl | later
    · exact List.length_take_le size xs
    · exact ih later

theorem SendOptions.validate_ok {options : SendOptions} (valid : options.validate = .ok ()) :
    options.batchSize ≠ 0 := by
  unfold SendOptions.validate require at valid
  split at valid
  · simp_all
  · cases valid

/-- A position where a chunk of a batch begins, or the end of the batch. -/
def ChunkEdge (size total position : Nat) : Prop := size ∣ position ∨ position = total

namespace SendResult

/-- The failures cover the messages without an id. They are in order, apart from each other and made of whole chunks. -/
structure Consistent (size total : Nat) (result : SendResult) : Prop where
  failed : ∀ position, position ∈ result.failedIndexes ↔ result.ids[position]? = some none
  ordered : result.failures.Pairwise fun earlier later => earlier.stop ≤ later.first
  aligned : ∀ failure ∈ result.failures, failure.first < failure.stop ∧ ChunkEdge size total failure.first ∧
    ChunkEdge size total failure.stop

theorem consistent_empty (size total : Nat) : empty.Consistent size total :=
  ⟨fun _ => ⟨nofun, nofun⟩, .nil, nofun⟩

variable {size total count : Nat} {result : SendResult}

theorem failedIndexes_addFailed (result : SendResult) (count : Nat) (error : Error) :
    (result.addFailed count error).failedIndexes = result.failedIndexes ++ List.range' result.ids.length count := by
  simp [failedIndexes, addFailed, SendFailure.indexes]

/-- A chunk that was written brings no message without an id. -/
theorem missing_addSent (result : SendResult) (ids : List MessageId) (position : Nat) :
    (result.addSent ids).ids[position]? = some none ↔ result.ids[position]? = some none := by
  change (result.ids ++ ids.map some)[position]? = some none ↔ _
  rw [List.getElem?_append]
  split
  · rfl
  · have past : result.ids[position]? = none := List.getElem?_eq_none (by omega)
    simp [past]

theorem missing_addFailed (result : SendResult) (count : Nat) (error : Error) (position : Nat) :
    (result.addFailed count error).ids[position]? = some none ↔ result.ids[position]? = some none ∨
      result.ids.length ≤ position ∧ position < result.ids.length + count := by
  change (result.ids ++ List.replicate count none)[position]? = some none ↔ _
  rw [List.getElem?_append]
  split
  · exact (or_iff_left fun there => by omega).symm
  · have past : result.ids[position]? = none := List.getElem?_eq_none (by omega)
    simp only [past, List.getElem?_replicate]
    split <;> simp <;> omega

namespace Consistent

/-- A range of failures ends within the result. -/
theorem within (consistent : result.Consistent size total) {failure : SendFailure}
    (member : failure ∈ result.failures) : failure.stop ≤ result.ids.length := by
  have long := (consistent.aligned failure member).1
  have last : failure.stop - 1 ∈ result.failedIndexes :=
    List.mem_flatMap.mpr ⟨failure, member, List.mem_range'_1.mpr (by omega)⟩
  obtain ⟨bound, _⟩ := List.getElem?_eq_some_iff.mp ((consistent.failed _).mp last)
  omega

theorem addSent (consistent : result.Consistent size total) (ids : List MessageId) :
    (result.addSent ids).Consistent size total := by
  refine ⟨fun position => ?_, consistent.ordered, consistent.aligned⟩
  rw [missing_addSent]
  exact consistent.failed position

theorem addFailed (consistent : result.Consistent size total) (nonempty : 0 < count) (error : Error)
    (start : ChunkEdge size total result.ids.length) (stop : ChunkEdge size total (result.ids.length + count)) :
    (result.addFailed count error).Consistent size total := by
  refine ⟨fun position => ?_, ?_, ?_⟩
  · rw [failedIndexes_addFailed, List.mem_append, consistent.failed position, List.mem_range'_1, missing_addFailed]
  · refine List.pairwise_append.mpr ⟨consistent.ordered, List.pairwise_singleton _ _, ?_⟩
    intro earlier member later new
    obtain rfl := List.mem_singleton.mp new
    exact consistent.within member
  · intro failure member
    rcases List.mem_append.mp member with old | new
    · exact consistent.aligned failure old
    · obtain rfl := List.mem_singleton.mp new
      exact ⟨Nat.lt_add_of_pos_right nonempty, start, stop⟩

end Consistent

/-- The failed positions are those of the messages without an id, each once and in order. -/
def Exact (result : SendResult) : Prop :=
  result.failedIndexes = (List.range result.ids.length).filter fun position => result.ids[position]? = some none

theorem exact_empty : empty.Exact := rfl

namespace Exact

theorem addSent (exact : result.Exact) (ids : List MessageId) : (result.addSent ids).Exact := by
  have longer : (result.addSent ids).ids.length = result.ids.length + ids.length := by
    rw [SendResult.addSent, List.length_append, List.length_map]
  have past : ((List.range ids.length).map (result.ids.length + ·)).filter
      (fun position => result.ids[position]? = some none) = [] := by
    refine List.filter_eq_nil_iff.mpr fun position member => ?_
    obtain ⟨offset, _, rfl⟩ := List.mem_map.mp member
    simp
  unfold Exact
  simp only [longer, missing_addSent, List.range_add, List.filter_append, past, List.append_nil]
  exact exact

theorem addFailed (exact : result.Exact) (count : Nat) (error : Error) : (result.addFailed count error).Exact := by
  have longer : (result.addFailed count error).ids.length = result.ids.length + count := by
    rw [SendResult.addFailed, List.length_append, List.length_replicate]
  unfold Exact
  rw [failedIndexes_addFailed, exact, longer, List.range_add, List.filter_append]
  congr 1
  · refine List.filter_congr fun position member => ?_
    have within := List.mem_range.mp member
    rw [decide_eq_decide, missing_addFailed]
    exact (or_iff_left fun there => by omega).symm
  · rw [List.filter_eq_self.mpr fun position member => ?_, List.range_eq_range', List.map_add_range', Nat.add_zero]
    obtain ⟨offset, within, rfl⟩ := List.mem_map.mp member
    have bound := List.mem_range.mp within
    rw [decide_eq_true_eq, missing_addFailed]
    exact .inr ⟨Nat.le_add_right _ _, Nat.add_lt_add_left bound _⟩

/-- The failures are counted once each. -/
theorem failedCount (exact : result.Exact) : result.failedCount = result.ids.count none := by
  have positions (ids : List (Option MessageId)) :
      ((List.range ids.length).filter fun position => ids[position]? = some none).length = ids.count none := by
    induction ids with
    | nil => rfl
    | cons first rest ih =>
      rw [List.length_cons, List.range_succ_eq_map, List.filter_cons, List.filter_map, List.count_cons, ← ih]
      cases first with
      | none => simp [Function.comp_def]
      | some id => simp [Function.comp_def]
  rw [← positions, ← exact]
  rfl

/-- Every message was written or failed. -/
theorem sent_add_failedCount (exact : result.Exact) :
    result.sent.length + result.failedCount = result.ids.length := by
  rw [exact.failedCount, sent, List.length_filterMap_eq_countP, List.count_eq_countP]
  refine Eq.trans ?_ (List.length_eq_countP_add_countP Option.isSome).symm
  congr 1
  refine List.countP_congr fun id _ => ?_
  cases id <;> simp

end Exact

/-- Without a failure the result is the list of the ids. -/
theorem ids_sent {result : SendResult} (all : none ∉ result.ids) :
    result.ids = result.sent.map some := by
  obtain ⟨ids, failures⟩ := result
  change none ∉ ids at all
  change ids = (ids.filterMap id).map some
  induction ids with
  | nil => rfl
  | cons first rest ih =>
    cases first with
    | none => exact absurd List.mem_cons_self all
    | some id => exact congrArg (some id :: ·) (ih fun member => all (List.mem_cons_of_mem _ member))

end SendResult

end LeaseQueue
