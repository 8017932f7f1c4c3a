import LeaseQueue.Proofs.Memory.Receives
import LeaseQueue.Proofs.Memory.Repeats
import Mathlib.Data.List.Perm.Basic

/-!
Mutations whose list names every message once. Each message that is there gets exactly the listed columns written, from
its old values, and the answer follows the list of ids entry by entry, so neither order matters.
-/
namespace LeaseQueue

namespace Mutation

variable {mutations : List Mutation}

/-- Two places of the list hold mutations of one column. -/
def Repeats (mutations : List Mutation) : Prop :=
  ∃ first second, [first, second].Sublist mutations ∧ first.column = second.column

theorem repeats_iff : Repeats mutations ↔ ¬ (mutations.map column).Nodup := by
  rw [List.nodup_iff_sublist, not_forall_not]
  constructor
  · rintro ⟨first, second, pair, same⟩
    refine ⟨first.column, ?_⟩
    have columns := pair.map column
    rwa [List.map_cons, List.map_cons, List.map_nil, ← same] at columns
  · rintro ⟨twice, pair⟩
    obtain ⟨found, inside, columns⟩ := List.sublist_map_iff.mp pair
    obtain ⟨first, later, rfl, here, others⟩ := List.map_eq_cons_iff.mp columns.symm
    obtain ⟨second, rest, rfl, there, last⟩ := List.map_eq_cons_iff.mp others
    obtain rfl := List.map_eq_nil_iff.mp last
    exact ⟨first, second, inside, here.trans there.symm⟩

/-- What is refused is the empty list and every list with two mutations of one column; all others are accepted. -/
theorem validateAll_cases (mutations : List Mutation) :
    ((mutations = [] ∨ Repeats mutations) ∧ ∃ fault, validateAll mutations = .error (.invalidConfig fault)) ∨
      ¬ (mutations = [] ∨ Repeats mutations) ∧ validateAll mutations = .ok () := by
  rw [repeats_iff]
  unfold validateAll require
  cases mutations with
  | nil => exact .inl ⟨.inl rfl, _, rfl⟩
  | cons mutation rest =>
    by_cases apart : ((mutation :: rest).map column).Nodup
    · rw [decide_eq_true apart]
      refine .inr ⟨?_, rfl⟩
      rintro (⟨⟨⟩⟩ | repeated)
      exact repeated apart
    · rw [decide_eq_false apart]
      exact .inl ⟨.inr apart, _, rfl⟩

theorem validateAll_perm {others : List Mutation} (perm : others.Perm mutations)
    (accepted : validateAll mutations = .ok ()) : validateAll others = .ok () := by
  rcases validateAll_cases others with ⟨empty | repeated, _⟩ | ⟨_, valid⟩
  · subst empty
    obtain rfl := List.nil_perm.mp perm
    exact accepted
  · have apart := (perm.map column).nodup_iff.mpr (columns_apart accepted)
    exact absurd apart (repeats_iff.mp repeated)
  · exact valid

/-- A mutation of the schedule leads to an instant of the calendar. -/
def Fits (now scheduledAt : Instant) (mutation : Mutation) : Prop :=
  mutation.column = .schedule →
    Instant.earliest ≤ mutation.value now scheduledAt ∧ mutation.value now scheduledAt ≤ Instant.latest

end Mutation

theorem Instant.add_isOk_iff (instant : Instant) (span : Int) :
    (∃ later, instant.add span = .ok later) ↔ Instant.earliest ≤ instant + span ∧ instant + span ≤ Instant.latest := by
  unfold Instant.add
  dsimp only
  split
  · exact ⟨fun _ => ‹_›, fun _ => ⟨_, rfl⟩⟩
  · exact ⟨nofun, fun inside => absurd inside ‹_›⟩

namespace StoredMessage

variable {now : Instant} {mutations others : List Mutation} {row changed : StoredMessage}

theorem mutate_isOk_iff (mutation : Mutation) :
    (∃ changed, row.mutate now mutation = .ok changed) ↔ mutation.Fits now row.scheduledAt := by
  cases mutation with
  | addAttempts delta => exact ⟨fun _ schedule => MutatedColumn.noConfusion schedule, fun _ => ⟨_, rfl⟩⟩
  | setAttempts attempts => exact ⟨fun _ schedule => MutatedColumn.noConfusion schedule, fun _ => ⟨_, rfl⟩⟩
  | addSchedule delta =>
    refine Iff.trans ?_ ((row.scheduledAt.add_isOk_iff delta).trans ⟨fun inside _ => inside, fun fits => fits rfl⟩)
    simp only [mutate]
    cases row.scheduledAt.add delta with
    | error overflow => constructor <;> rintro ⟨_, ok⟩ <;> cases ok
    | ok later => exact ⟨fun _ => ⟨_, rfl⟩, fun _ => ⟨_, rfl⟩⟩
  | setSchedule delay =>
    refine Iff.trans ?_ ((now.add_isOk_iff delay).trans ⟨fun inside _ => inside, fun fits => fits rfl⟩)
    simp only [mutate]
    cases now.add delay with
    | error overflow => constructor <;> rintro ⟨_, ok⟩ <;> cases ok
    | ok later => exact ⟨fun _ => ⟨_, rfl⟩, fun _ => ⟨_, rfl⟩⟩

/-- Mutations of different columns come to their end exactly if each of them fits the message as it was. -/
theorem mutateAll_completes_iff (apart : (mutations.map Mutation.column).Nodup) :
    (row.mutateAll now mutations).1 = none ↔ ∀ mutation ∈ mutations, mutation.Fits now row.scheduledAt := by
  induction mutations generalizing row with
  | nil => exact ⟨fun _ => List.forall_mem_nil _, fun _ => rfl⟩
  | cons mutation rest ih =>
    rw [List.map_cons, List.nodup_cons] at apart
    rw [List.forall_mem_cons, ← mutate_isOk_iff]
    unfold mutateAll
    cases first : row.mutate now mutation with
    | error overflow =>
      constructor
      · intro completes
        cases completes
      · rintro ⟨⟨_, ok⟩, _⟩
        cases ok
    | ok next =>
      -- Another mutation of the schedule finds it unchanged.
      have later : (∀ other ∈ rest, other.Fits now next.scheduledAt) ↔
          ∀ other ∈ rest, other.Fits now row.scheduledAt := by
        refine forall₂_congr fun other member => forall_congr' fun schedule => ?_
        have different : MutatedColumn.schedule ≠ mutation.column := fun same =>
          apart.1 (same ▸ schedule ▸ List.mem_map_of_mem member)
        have same : next.scheduledAt = row.scheduledAt := (mutate_column first .schedule).trans (if_neg different)
        rw [same]
      dsimp only
      rw [ih apart.2, later]
      exact ⟨fun fits => ⟨⟨_, rfl⟩, fits⟩, fun fits => fits.2⟩

theorem address_eq_iff (row : StoredMessage) {id : MessageId} :
    row.address = id ↔ row.id = id.localId ∧ row.shard = id.shard := by
  cases id
  exact iff_of_eq (MessageId.mk.injEq ..)

/-- The message with the listed columns written, each from its old value, and everything else as it was. -/
structure Amended (now : Instant) (mutations : List Mutation) (row changed : StoredMessage) : Prop where
  written : ∀ mutation ∈ mutations, changed.column mutation.column = mutation.value now (row.column mutation.column)
  unlisted : ∀ column ∉ mutations.map Mutation.column, changed.column column = row.column column
  others : changed = { row with scheduledAt := changed.scheduledAt, remaining := changed.remaining }

theorem Amended.unique {other : StoredMessage} (here : Amended now mutations row changed)
    (there : Amended now mutations row other) : changed = other := by
  have columns (column : MutatedColumn) : changed.column column = other.column column := by
    by_cases listed : column ∈ mutations.map Mutation.column
    · obtain ⟨mutation, member, rfl⟩ := List.mem_map.mp listed
      exact (here.written mutation member).trans (there.written mutation member).symm
    · exact (here.unlisted column listed).trans (there.unlisted column listed).symm
  have attempts : changed.remaining = other.remaining := columns .attempts
  have schedule : changed.scheduledAt = other.scheduledAt := columns .schedule
  rw [here.others, there.others, attempts, schedule]

theorem Amended.perm (amended : Amended now others row changed) (perm : others.Perm mutations) :
    Amended now mutations row changed := by
  refine ⟨fun mutation member => amended.written mutation (perm.mem_iff.mpr member), fun column free => ?_,
    amended.others⟩
  exact amended.unlisted column fun listed => free ((perm.map Mutation.column).mem_iff.mp listed)

theorem mutated_amended (apart : (mutations.map Mutation.column).Nodup)
    (fits : ∀ mutation ∈ mutations, mutation.Fits now row.scheduledAt) :
    Amended now mutations row (row.mutated now mutations) := by
  obtain ⟨written, unlisted⟩ := mutateAll_column apart (Prod.ext ((mutateAll_completes_iff apart).mpr fits) rfl)
  exact ⟨written, unlisted, row.mutateAll_writes now mutations⟩

theorem mutated_perm (perm : others.Perm mutations) (apart : (mutations.map Mutation.column).Nodup)
    (fits : ∀ mutation ∈ mutations, mutation.Fits now row.scheduledAt) :
    row.mutated now others = row.mutated now mutations := by
  have rearranged := (perm.map Mutation.column).nodup_iff.mpr apart
  have amended := mutated_amended rearranged fun mutation member => fits mutation (perm.mem_iff.mp member)
  exact (amended.perm perm).unique (mutated_amended apart fits)

/-- Named once, a message is mutated once. -/
theorem mutateEach_distinct {ids : List MessageId} (distinct : ids.Nodup) (listed : row.address ∈ ids) :
    row.mutateEach now mutations ids = row.mutated now mutations := by
  rw [mutateEach_eq_iterate, List.count_eq_one_of_mem distinct listed]
  rfl

/-- It does not matter where in a list of different ids the message is named, nor in which order the mutations are. -/
theorem mutateEach_perm {ids reordered : List MessageId} (perm : reordered.Perm ids) (distinct : ids.Nodup)
    (same : row.address ∈ ids → row.mutated now others = row.mutated now mutations) :
    row.mutateEach now others reordered = row.mutateEach now mutations ids := by
  by_cases listed : row.address ∈ ids
  · rw [mutateEach_distinct (perm.nodup_iff.mpr distinct) (perm.mem_iff.mpr listed),
      mutateEach_distinct distinct listed, same listed]
  · rw [mutateEach_other _ _ fun named => listed (perm.mem_iff.mp named), mutateEach_other _ _ listed]

end StoredMessage

namespace Table

variable {table : Table} {now : Instant} {mutations : List Mutation} {ids : List MessageId}

/-- Different messages are mutated where they stand, and each entry says how its message stands in the end. -/
theorem mutateAll_distinct (ascending : Ascending table.rows) (apart : (mutations.map Mutation.column).Nodup)
    (distinct : ids.Nodup) (completes : ∀ row ∈ table.rows, row.address ∈ ids →
      (row.mutateAll now mutations).1 = none) :
    let rows := table.rows.map (StoredMessage.mutateEach now mutations ids)
    table.mutateAll now mutations ids = (.ok (ids.map (outcomeIn rows)), { table with rows := rows }) := by
  have allows : ∀ row ∈ table.rows, row.Allows now mutations (ids.count row.address) := by
    intro row member earlier less
    have single := List.nodup_iff_count_le_one.mp distinct row.address
    obtain rfl : earlier = 0 := by omega
    exact completes row member (List.count_pos_iff.mp less)
  obtain ⟨outcomes, answer⟩ := (mutateAll_isOk_iff ascending).mpr allows
  obtain ⟨left, done, _⟩ := mutateAll_once ascending apart (Prod.ext answer rfl) distinct fun _ => Iff.rfl
  obtain ⟨rows, _⟩ := mutateAll_answers ascending done
  have sequence := (mutateAll_mutates ascending now mutations ids).sequence
  rw [done] at sequence ⊢
  rw [← rows, ← sequence]

end Table

theorem Database.onRows_changes (database : Database) (queue : QueueName) (change : StoredMessage → StoredMessage) :
    Changes queue.table change database (database.onRows queue (List.map change)) :=
  ⟨database.onRows_moves queue _, database.onRows_table queue _⟩

namespace Run

open Database StoredMessage

variable {queue : Queue} {mutations others : List Mutation} {ids : List MessageId} {before : Database} {now : Instant}

/-- Where every message is named once and no date overflows, a mutation comes to its end. -/
theorem mutate_distinct_run (accepted : Mutation.validateAll mutations = .ok ())
    (spans : ∀ mutation ∈ mutations, checkMutation mutation = .ok ()) (clock : before.now = .ok now)
    (ascending : Table.Ascending (before.rows queue.table)) (distinct : ids.Nodup)
    (fits : ∀ row ∈ before.rows queue.table, row.address ∈ ids →
      ∀ mutation ∈ mutations, mutation.Fits now row.scheduledAt) :
    (mutate queue mutations ids).run.run before =
      (.ok (.ok (ids.map (Table.outcomeIn ((before.rows queue.table).map (mutateEach now mutations ids))))),
        before.onRows queue.name (List.map (mutateEach now mutations ids))) := by
  have apart := Mutation.columns_apart accepted
  have checked : mutations.forM checkMutation = .ok () := by
    rcases forM_cases checkMutation mutations with ⟨_, passed⟩ | ⟨mutation, member, _, failed, _⟩
    · exact passed
    · cases failed.symm.trans (spans mutation member)
  have valid : (Mutation.validateAll mutations >>= fun _ => mutations.forM checkMutation) = .ok () := by
    rw [accepted]
    exact checked
  rw [mutate_eq, valid, clock]
  unfold onRows
  cases found : before.table? queue.name with
  | none =>
    rw [show before.rows queue.table = [] from rows_of_none found]
    rfl
  | some table =>
    rw [show before.rows queue.table = table.rows from rows_of_table found] at ascending fits ⊢
    dsimp only
    rw [Table.mutateAll_distinct ascending apart distinct fun row member listed =>
      (mutateAll_completes_iff apart).mpr (fits row member listed)]
    rfl

/-- A list of mutations is refused exactly if it is empty or has two mutations of one column. Where one is accepted,
every message is named once and no date overflows, the answer follows the ids: an id is not found exactly if no row has
its local id and its shard, and otherwise the answer says how the row stands, each listed column written from its old
value. Nothing else changes, and neither the order of the ids nor that of the mutations matters. -/
theorem mutate_amends :
    (∀ list, ((list = [] ∨ Mutation.Repeats list) ∧
        ∃ fault, Mutation.validateAll list = .error (.invalidConfig fault)) ∨
      ¬ (list = [] ∨ Mutation.Repeats list) ∧ Mutation.validateAll list = .ok ()) ∧
    ∀ {queue : Queue} {mutations : List Mutation} {ids : List MessageId} {before : Database} {now : Instant},
      Mutation.validateAll mutations = .ok () → (∀ mutation ∈ mutations, checkMutation mutation = .ok ()) →
      before.now = .ok now → Table.Ascending (before.rows queue.table) → ids.Nodup →
      (∀ row ∈ before.rows queue.table, row.address ∈ ids →
        ∀ mutation ∈ mutations, mutation.Fits now row.scheduledAt) →
      ∃ report change after, (mutate queue mutations ids).run.run before = (.ok (.ok (ids.map report)), after) ∧
        (∀ id, report id = .notFound id ↔
          ∀ row ∈ before.rows queue.table, ¬ (row.id = id.localId ∧ row.shard = id.shard)) ∧
        (∀ row ∈ before.rows queue.table, row.address ∈ ids → Amended now mutations row (change row) ∧
          report row.address = .mutated row.address (change row).scheduledAt (change row).remaining) ∧
        (∀ row ∈ before.rows queue.table, row.address ∉ ids → change row = row) ∧
        Changes queue.table change before after ∧ after = { before with tables := after.tables } ∧
        (∀ others, others.Perm ids →
          (mutate queue mutations others).run.run before = (.ok (.ok (others.map report)), after)) ∧
        ∀ others, others.Perm mutations →
          (mutate queue others ids).run.run before = (mutate queue mutations ids).run.run before := by
  refine ⟨Mutation.validateAll_cases, ?_⟩
  intro queue mutations ids before now accepted spans clock ascending distinct fits
  have apart := Mutation.columns_apart accepted
  let rows := before.rows queue.table
  -- Whatever is rearranged, every row of the table ends up the same.
  have rearranged (listed : List Mutation) (named : List MessageId) (permuted : listed.Perm mutations)
      (reordered : named.Perm ids) : (mutate queue listed named).run.run before =
        (.ok (.ok (named.map (Table.outcomeIn (rows.map (mutateEach now mutations ids))))),
          before.onRows queue.name (List.map (mutateEach now mutations ids))) := by
    have same : ∀ row ∈ rows, row.mutateEach now listed named = row.mutateEach now mutations ids :=
      fun row member => mutateEach_perm reordered distinct fun address =>
        mutated_perm permuted apart (fits row member address)
    rw [mutate_distinct_run (Mutation.validateAll_perm permuted accepted)
      (fun mutation member => spans mutation (permuted.mem_iff.mp member)) clock ascending
      (reordered.nodup_iff.mpr distinct) fun row member address mutation listed =>
        fits row member (reordered.mem_iff.mp address) mutation (permuted.mem_iff.mp listed),
      List.map_congr_left same, before.onRows_congr (List.map_congr_left same)]
  refine ⟨_, mutateEach now mutations ids, _, rearranged mutations ids (.refl _) (.refl _), fun id => ?_,
    fun row member listed => ⟨?_, Table.outcomeIn_mutateEach ascending member ids⟩,
    fun row member unlisted => mutateEach_other _ _ unlisted, before.onRows_changes queue.name _,
    before.onRows_others queue.name _, fun others perm => rearranged mutations others (.refl _) perm,
    fun others perm => ?_⟩
  · have names : (∀ row ∈ rows, ¬ (row.id = id.localId ∧ row.shard = id.shard)) ↔ ∀ row ∈ rows, row.address ≠ id :=
      forall₂_congr fun row _ => not_congr row.address_eq_iff.symm
    refine Iff.trans ⟨fun missing row member named => ?_, fun absent => Table.outcomeIn_absent absent ids⟩ names.symm
    subst named
    cases (Table.outcomeIn_mutateEach ascending member ids).symm.trans missing
  · rw [mutateEach_distinct distinct listed]
    exact mutated_amended apart (fits row member listed)
  · rw [rearranged others ids perm (.refl _), rearranged mutations ids (.refl _) (.refl _)]

end Run

/-- One id of two is found. The mutations may change places, and so may the ids with their entries. -/
theorem one_of_two_amended :
    let run (mutations : List Mutation) (ids : List MessageId) :=
      (Run.mutate (.named .jobs) mutations ids).run.run oneMessage
    (run [.addAttempts 1, .setSchedule 5] [⟨1, 1⟩, ⟨2, 1⟩]).1 =
        .ok (.ok [.mutated ⟨1, 1⟩ 5 6, .notFound ⟨2, 1⟩]) ∧
      run [.setSchedule 5, .addAttempts 1] [⟨1, 1⟩, ⟨2, 1⟩] = run [.addAttempts 1, .setSchedule 5] [⟨1, 1⟩, ⟨2, 1⟩] ∧
      (run [.addAttempts 1, .setSchedule 5] [⟨2, 1⟩, ⟨1, 1⟩]).1 =
        .ok (.ok [.notFound ⟨2, 1⟩, .mutated ⟨1, 1⟩ 5 6]) := by
  intro run
  have ascending : Table.Ascending (oneMessage.rows (Queue.named .jobs).table) :=
    (replay_history .fresh sendOne).ordered Database.fresh_opened _
  have fits : ∀ row ∈ oneMessage.rows (Queue.named .jobs).table, row.address ∈ [⟨1, 1⟩, ⟨2, 1⟩] →
      ∀ mutation ∈ [Mutation.addAttempts 1, Mutation.setSchedule 5], mutation.Fits 0 row.scheduledAt := by
    intro row _ _ mutation member schedule
    rcases List.mem_pair.mp member with rfl | rfl
    · cases schedule
    · exact of_decide_eq_true rfl
  have clock : oneMessage.now = .ok 0 := by decide +kernel
  obtain ⟨report, _, after, ran, _, _, _, _, _, ids, mutations⟩ :=
    Run.mutate_amends.2 rfl (by decide +kernel) clock ascending (by decide) fits
  have answer : (run [.addAttempts 1, .setSchedule 5] [⟨1, 1⟩, ⟨2, 1⟩]).1 =
      .ok (.ok [.mutated ⟨1, 1⟩ 5 6, .notFound ⟨2, 1⟩]) := by decide +kernel
  have entries : [report ⟨1, 1⟩, report ⟨2, 1⟩] = [.mutated ⟨1, 1⟩ 5 6, .notFound ⟨2, 1⟩] := by
    rw [show run [.addAttempts 1, .setSchedule 5] [⟨1, 1⟩, ⟨2, 1⟩] = _ from ran] at answer
    injection answer with answer
    injection answer
  obtain ⟨here, there⟩ := List.cons.inj entries
  refine ⟨answer, mutations _ (.swap _ _ _), ?_⟩
  rw [show run [.addAttempts 1, .setSchedule 5] [⟨2, 1⟩, ⟨1, 1⟩] = _ from ids _ (.swap _ _ _),
    List.map_cons, List.map_cons, here, List.head_eq_of_cons_eq there, List.map_nil]

end LeaseQueue
