import LeaseQueue.Proofs.Memory.Failures

/-!
Mutations whose list names a message several times. They pass over the message once for each time it is named, and each
entry of the answer says how it stood then. This comes to the same as naming it once exactly where a second pass has
nothing left to change.
-/
namespace LeaseQueue

namespace Mutation

/-- The value that the mutation makes of the one in its column. -/
def value (now : Instant) : Mutation → Int → Int
  | addAttempts delta, old => max StoredMessage.leastAttempts (min (old + delta) StoredMessage.mostAttempts)
  | setAttempts attempts, _ => attempts
  | addSchedule delta, old => old + delta
  | setSchedule delay, _ => now + delay

/-- Made of this value, the mutation has nothing left to change: it writes its column outright, moves it by nothing, or
moves it as far as attempts go. -/
def Settles (old : Int) : Mutation → Prop
  | addAttempts delta => delta = 0 ∨ 0 < delta ∧ StoredMessage.mostAttempts ≤ old + delta ∨
      delta < 0 ∧ old + delta ≤ StoredMessage.leastAttempts
  | setAttempts _ | setSchedule _ => True
  | addSchedule delta => delta = 0

theorem settles_iff (mutation : Mutation) (now : Instant) (old : Int) :
    mutation.Settles old ↔ mutation.value now (mutation.value now old) = mutation.value now old := by
  cases mutation with
  | addAttempts delta =>
    have least : StoredMessage.leastAttempts = -2147483648 := by decide
    have most : StoredMessage.mostAttempts = 2147483647 := by decide
    dsimp only [Settles, value]
    rw [least, most]
    omega
  | setAttempts attempts => exact ⟨fun _ => rfl, fun _ => trivial⟩
  | addSchedule delta =>
    change @Eq Nat delta 0 ↔ old + (delta : Int) + (delta : Int) = old + (delta : Int)
    omega
  | setSchedule delay => exact ⟨fun _ => rfl, fun _ => trivial⟩

end Mutation

namespace StoredMessage

variable {now : Instant} {mutations : List Mutation} {row changed : StoredMessage}

/-- What mutations of a column read and write. -/
def column (row : StoredMessage) : MutatedColumn → Int
  | .attempts => row.remaining
  | .schedule => row.scheduledAt

theorem mutate_column {mutation : Mutation} (done : row.mutate now mutation = .ok changed) (column : MutatedColumn) :
    changed.column column =
      if column = mutation.column then mutation.value now (row.column column) else row.column column := by
  cases mutation with
  | addAttempts delta =>
    cases done
    cases column <;> rfl
  | setAttempts attempts =>
    cases done
    cases column <;> rfl
  | addSchedule delta =>
    simp only [mutate] at done
    cases due : row.scheduledAt.add delta with
    | error overflow => rw [due] at done; cases done
    | ok instant =>
      rw [due] at done
      cases done
      cases column
      · rfl
      · exact Instant.add_ok due
  | setSchedule delay =>
    simp only [mutate] at done
    cases due : now.add delay with
    | error overflow => rw [due] at done; cases done
    | ok instant =>
      rw [due] at done
      cases done
      cases column
      · rfl
      · exact Instant.add_ok due

/-- Mutations of different columns write each column by itself, from its old value. -/
theorem mutateAll_column (apart : (mutations.map Mutation.column).Nodup)
    (done : row.mutateAll now mutations = (none, changed)) :
    (∀ mutation ∈ mutations, changed.column mutation.column = mutation.value now (row.column mutation.column)) ∧
      ∀ column ∉ mutations.map Mutation.column, changed.column column = row.column column := by
  induction mutations generalizing row with
  | nil =>
    cases done
    exact ⟨nofun, fun _ _ => rfl⟩
  | cons mutation rest ih =>
    rw [List.map_cons, List.nodup_cons] at apart
    unfold mutateAll at done
    cases first : row.mutate now mutation with
    | error overflow => rw [first] at done; cases done
    | ok next =>
      rw [first] at done
      obtain ⟨written, kept⟩ := ih apart.2 done
      refine ⟨fun other member => ?_, fun column free => ?_⟩
      · rcases List.mem_cons.mp member with rfl | later
        · rw [kept _ apart.1, mutate_column first, if_pos rfl]
        · have different : other.column ≠ mutation.column := fun same =>
            apart.1 (same ▸ List.mem_map_of_mem later)
          rw [written other later, mutate_column first, if_neg different]
      · rw [List.map_cons, List.mem_cons, not_or] at free
        rw [kept column free.2, mutate_column first, if_neg free.1]

/-- The message after mutations have passed over it. -/
def mutated (now : Instant) (mutations : List Mutation) (row : StoredMessage) : StoredMessage :=
  (row.mutateAll now mutations).2

theorem mutated_address (now : Instant) (mutations : List Mutation) (row : StoredMessage) :
    (row.mutated now mutations).address = row.address :=
  congrArg Receipt.address (row.mutateAll_receipt now mutations)

/-- A pass writes the two columns and nothing else. -/
theorem mutated_eq_of_column (same : ∀ column, (row.mutated now mutations).column column = row.column column) :
    row.mutated now mutations = row := by
  refine (row.mutateAll_writes now mutations).trans ?_
  have attempts : (row.mutateAll now mutations).2.remaining = row.remaining := same .attempts
  have schedule : (row.mutateAll now mutations).2.scheduledAt = row.scheduledAt := same .schedule
  rw [attempts, schedule]

/-- One pass of mutations over the message settles all of them. -/
def SettledBy (mutations : List Mutation) (row : StoredMessage) : Prop :=
  ∀ mutation ∈ mutations, mutation.Settles (row.column mutation.column)

/-- A second pass changes nothing exactly if the first one settles all mutations. -/
theorem mutated_twice_iff (apart : (mutations.map Mutation.column).Nodup)
    (first : (row.mutateAll now mutations).1 = none)
    (second : ((row.mutated now mutations).mutateAll now mutations).1 = none) :
    row.SettledBy mutations ↔
      (row.mutated now mutations).mutated now mutations = row.mutated now mutations := by
  obtain ⟨written, _⟩ := mutateAll_column apart (Prod.ext first rfl)
  obtain ⟨rewritten, kept⟩ := mutateAll_column apart (Prod.ext second rfl)
  change ∀ mutation ∈ mutations, (row.mutated now mutations).column _ = _ at written
  constructor
  · intro settles
    refine mutated_eq_of_column fun column => ?_
    by_cases listed : column ∈ mutations.map Mutation.column
    · obtain ⟨mutation, member, rfl⟩ := List.mem_map.mp listed
      refine (rewritten mutation member).trans ?_
      rw [written mutation member]
      exact (mutation.settles_iff now _).mp (settles mutation member)
    · exact kept column listed
  · intro same mutation member
    rw [mutation.settles_iff now, ← written mutation member, ← rewritten mutation member]
    exact congrArg (StoredMessage.column · mutation.column) same

/-- One after the other, mutations pass over a message as often as it is named. -/
theorem mutateEach_eq_iterate (now : Instant) (mutations : List Mutation) (ids : List MessageId) (row : StoredMessage) :
    row.mutateEach now mutations ids = (mutated now mutations)^[ids.count row.address] row := by
  unfold mutateEach
  induction ids generalizing row with
  | nil => rfl
  | cons id rest ih =>
    rw [List.foldl_cons, List.count_cons]
    by_cases here : row.address = id
    · rw [if_pos here, if_pos (beq_iff_eq.mpr here.symm), Function.iterate_succ_apply, ih]
      exact congrArg (fun address => (mutated now mutations)^[rest.count address] _) (row.mutated_address now mutations)
    · rw [if_neg here, if_neg fun same => here (beq_iff_eq.mp same).symm, ih]
      rfl

theorem mutateEach_address (now : Instant) (mutations : List Mutation) (ids : List MessageId) (row : StoredMessage) :
    (row.mutateEach now mutations ids).address = row.address :=
  congrArg Receipt.address (row.mutateEach_receipt now mutations ids)

/-- Every one of a number of passes over the message comes to its end. -/
def Allows (now : Instant) (mutations : List Mutation) (passes : Nat) (row : StoredMessage) : Prop :=
  ∀ earlier < passes, (((mutated now mutations)^[earlier] row).mutateAll now mutations).1 = none

theorem allows_succ_iff {passes : Nat} :
    row.Allows now mutations (passes + 1) ↔
      (row.mutateAll now mutations).1 = none ∧ (row.mutated now mutations).Allows now mutations passes := by
  constructor
  · intro allows
    exact ⟨allows 0 (Nat.zero_lt_succ passes), fun earlier less => allows (earlier + 1) (Nat.succ_lt_succ less)⟩
  · rintro ⟨first, others⟩ earlier less
    cases earlier with
    | zero => exact first
    | succ earlier => exact others earlier (Nat.lt_of_succ_lt_succ less)

theorem Allows.mono {passes fewer : Nat} (allows : row.Allows now mutations passes) (le : fewer ≤ passes) :
    row.Allows now mutations fewer := fun earlier less => allows earlier (Nat.lt_of_lt_of_le less le)

/-- Where a second pass changes nothing, neither does any later one. -/
theorem iterate_mutated_eq (again : (row.mutated now mutations).mutated now mutations = row.mutated now mutations)
    {passes : Nat} (some : 0 < passes) : (mutated now mutations)^[passes] row = row.mutated now mutations := by
  obtain ⟨passes, rfl⟩ := Nat.exists_eq_add_of_lt some
  rw [Nat.zero_add, Function.iterate_succ_apply]
  exact Function.iterate_fixed again passes

/-- If a message is settled by one pass or named only once, then every list that names it, and not more often, leaves it
as one pass does. -/
theorem mutateEach_eq_mutated {ids others : List MessageId} (apart : (mutations.map Mutation.column).Nodup)
    (allows : row.Allows now mutations (ids.count row.address))
    (settles : 1 < ids.count row.address → row.SettledBy mutations)
    (listed : row.address ∈ others) (fewer : others.count row.address ≤ ids.count row.address) :
    row.mutateEach now mutations others = row.mutated now mutations := by
  rw [mutateEach_eq_iterate]
  have named : 0 < others.count row.address := List.count_pos_iff.mpr listed
  by_cases repeated : 1 < ids.count row.address
  · have again := (mutated_twice_iff apart (allows 0 (Nat.lt_trans Nat.one_pos repeated)) (allows 1 repeated)).mp
      (settles repeated)
    exact iterate_mutated_eq again named
  · have once : others.count row.address = 1 := Nat.le_antisymm (Nat.le_trans fewer (Nat.not_lt.mp repeated)) named
    rw [once]
    rfl

end StoredMessage

namespace Table

variable {table last : Table} {rows : List StoredMessage} {now : Instant} {mutations : List Mutation}
  {ids : List MessageId} {outcomes : List MutationOutcome}

/-- What a mutation says of a message that stands like this among the rows. -/
def outcomeIn (rows : List StoredMessage) (id : MessageId) : MutationOutcome :=
  (rows.find? fun row => row.address = id).elim (.notFound id) fun row => .mutated id row.scheduledAt row.remaining

/-- The entries of an answer say of each message how it stands after the passes so far. -/
structure Recounts (now : Instant) (mutations : List Mutation) (rows : List StoredMessage) (ids : List MessageId)
    (outcomes : List MutationOutcome) : Prop where
  count : outcomes.length = ids.length
  entry : ∀ earlier id later, ids = earlier ++ id :: later → outcomes[earlier.length]? =
    some (outcomeIn (rows.map (StoredMessage.mutateEach now mutations (earlier ++ [id]))) id)

theorem outcomeIn_map (rows : List StoredMessage) {change : StoredMessage → StoredMessage}
    (same : ∀ row, (change row).address = row.address) (id : MessageId) :
    outcomeIn (rows.map change) id = (rows.find? fun row => row.address = id).elim (.notFound id) fun row =>
      .mutated id (change row).scheduledAt (change row).remaining := by
  unfold outcomeIn
  have names : ((fun row : StoredMessage => decide (row.address = id)) ∘ change) =
      fun row : StoredMessage => decide (row.address = id) := by
    funext row
    exact congrArg (fun address => decide (address = id)) (same row)
  rw [List.find?_map, names]
  cases rows.find? fun row : StoredMessage => row.address = id <;> rfl

/-- One pass over a message comes to its end if the message allows it, and says how the message stands then. -/
theorem mutate_answers (ascending : Ascending table.rows) (now : Instant) (mutations : List Mutation) (id : MessageId) :
    ((∃ outcome, (table.mutate now mutations id).1 = .ok outcome) ↔
      ∀ row ∈ table.rows, row.address = id → (row.mutateAll now mutations).1 = none) ∧
    ∀ outcome, (table.mutate now mutations id).1 = .ok outcome →
      outcome = outcomeIn (table.rows.map fun row => row.mutateEach now mutations [id]) id := by
  rw [outcomeIn_map _ (StoredMessage.mutateEach_address now mutations [id])]
  unfold mutate
  cases found : table.rows.find? fun row => row.address = id with
  | none =>
    have absent : ∀ row ∈ table.rows, ¬ row.address = id := fun row member here =>
      List.find?_eq_none.mp found row member (decide_eq_true here)
    refine ⟨⟨fun _ row member here => absurd here (absent row member), fun _ => ⟨_, rfl⟩⟩, fun outcome answer => ?_⟩
    cases answer
    rfl
  | some row =>
    have named : row.address = id := by simpa using List.find?_some found
    have present := List.mem_of_find?_eq_some found
    have only : ∀ other ∈ table.rows, other.address = id → other = row := fun other member here =>
      eq_of_id ascending member present (congrArg MessageId.localId (here.trans named.symm))
    have once : row.mutateEach now mutations [id] = row.mutated now mutations := if_pos named
    rw [Option.elim_some, once]
    unfold StoredMessage.mutated
    rcases done : row.mutateAll now mutations with ⟨failed, changed⟩
    simp only [done]
    cases failed with
    | none =>
      refine ⟨⟨fun _ other member here => ?_, fun _ => ⟨_, rfl⟩⟩, fun outcome answer => ?_⟩
      · rw [only other member here, done]
      · cases answer
        rfl
    | some overflow =>
      refine ⟨⟨nofun, fun allows => ?_⟩, nofun⟩
      have stopped := allows row present named
      rw [done] at stopped
      cases stopped

/-- Naming one message more asks for one pass more over it, before all others. -/
theorem allows_cons_iff (ascending : Ascending table.rows) (id : MessageId) (rest : List MessageId) :
    (∀ row ∈ table.rows, row.Allows now mutations ((id :: rest).count row.address)) ↔
      (∀ row ∈ table.rows, row.address = id → (row.mutateAll now mutations).1 = none) ∧
        ∀ row ∈ (table.mutate now mutations id).2.rows, row.Allows now mutations (rest.count row.address) := by
  rw [mutate_rows ascending, List.forall_mem_map, ← forall₂_and]
  refine forall₂_congr fun row member => ?_
  rw [List.count_cons]
  by_cases here : row.address = id
  · have address := row.mutated_address now mutations
    unfold StoredMessage.mutated at address
    rw [if_pos here, if_pos (beq_iff_eq.mpr here.symm), StoredMessage.allows_succ_iff, address]
    exact and_congr_left' ⟨fun steady _ => steady, fun steady => steady here⟩
  · rw [if_neg here, if_neg fun same => here (beq_iff_eq.mp same).symm]
    exact (and_iff_right fun named => absurd named here).symm

/-- Mutations come to their end if every message allows as many passes as it is named. -/
theorem mutateAll_isOk_iff (ascending : Ascending table.rows) :
    (∃ outcomes, (table.mutateAll now mutations ids).1 = .ok outcomes) ↔
      ∀ row ∈ table.rows, row.Allows now mutations (ids.count row.address) := by
  induction ids generalizing table with
  | nil => exact ⟨fun _ row _ _ less => absurd less (Nat.not_lt_zero _), fun _ => ⟨[], rfl⟩⟩
  | cons id rest ih =>
    obtain ⟨comesThrough, _⟩ := mutate_answers ascending now mutations id
    have order := (mutate_mutates ascending now mutations id).ascending ascending
    rw [allows_cons_iff ascending, ← comesThrough]
    unfold mutateAll
    rcases first : table.mutate now mutations id with ⟨result, changed⟩
    rw [first] at order
    cases result with
    | error overflow =>
      constructor
      · rintro ⟨_, ⟨⟩⟩
      · rintro ⟨⟨_, ⟨⟩⟩, _⟩
    | ok outcome =>
      rw [← ih order]
      dsimp only
      cases (changed.mutateAll now mutations rest).1 with
      | error overflow =>
        constructor
        · rintro ⟨_, ⟨⟩⟩
        · rintro ⟨_, _, ⟨⟩⟩
      | ok found => exact ⟨fun _ => ⟨⟨outcome, rfl⟩, found, rfl⟩, fun _ => ⟨outcome :: found, rfl⟩⟩

/-- Mutations that come to their end say of each message how it stands after the passes so far. -/
theorem mutateAll_answers (ascending : Ascending table.rows)
    (done : table.mutateAll now mutations ids = (.ok outcomes, last)) :
    last.rows = table.rows.map (StoredMessage.mutateEach now mutations ids) ∧
      Recounts now mutations table.rows ids outcomes := by
  induction ids generalizing table outcomes with
  | nil =>
    cases done
    exact ⟨(List.map_id _).symm, rfl, fun earlier id later parts => by cases earlier <;> cases parts⟩
  | cons id rest ih =>
    obtain ⟨_, answer⟩ := mutate_answers ascending now mutations id
    have rows : (table.mutate now mutations id).2.rows = table.rows.map (StoredMessage.mutateEach now mutations [id]) :=
      mutate_rows ascending now mutations id
    have order := (mutate_mutates ascending now mutations id).ascending ascending
    unfold mutateAll at done
    rcases first : table.mutate now mutations id with ⟨result, changed⟩
    rw [first] at done rows order answer
    cases result with
    | error overflow => cases done
    | ok outcome =>
      rcases others : changed.mutateAll now mutations rest with ⟨found, after⟩
      dsimp only at done
      rw [others] at done
      cases found with
      | error overflow => cases done
      | ok found =>
        cases done
        obtain ⟨left, count, entry⟩ := ih order others
        dsimp only at rows
        refine ⟨?_, congrArg (· + 1) count, fun earlier named later parts => ?_⟩
        · rw [left, rows, List.map_map]
          rfl
        · cases earlier with
          | nil =>
            cases parts
            exact congrArg some (answer outcome rfl)
          | cons head front =>
            cases parts
            refine (entry front named later rfl).trans ?_
            rw [rows, List.map_map]
            rfl

/-- A message that is there is reported as it stands after the passes over it. -/
theorem outcomeIn_mutateEach (ascending : Ascending rows) {row : StoredMessage} (present : row ∈ rows)
    (named : List MessageId) : outcomeIn (rows.map (StoredMessage.mutateEach now mutations named)) row.address =
      .mutated row.address (row.mutateEach now mutations named).scheduledAt
        (row.mutateEach now mutations named).remaining := by
  rw [outcomeIn_map _ (StoredMessage.mutateEach_address now mutations named)]
  cases found : rows.find? fun other => other.address = row.address with
  | none => exact absurd (decide_eq_true rfl) (List.find?_eq_none.mp found row present)
  | some other =>
    have same : other.address = row.address := by simpa using List.find?_some found
    rw [eq_of_id ascending (List.mem_of_find?_eq_some found) present (congrArg MessageId.localId same)]
    rfl

theorem outcomeIn_absent {id : MessageId} (absent : ∀ row ∈ rows, row.address ≠ id) (named : List MessageId) :
    outcomeIn (rows.map (StoredMessage.mutateEach now mutations named)) id = .notFound id := by
  rw [outcomeIn_map _ (StoredMessage.mutateEach_address now mutations named),
    List.find?_eq_none.mpr fun row member here => absent row member (of_decide_eq_true here)]
  rfl

/-- If two entries about a message agree, the first pass over it has settled it. -/
theorem settles_of_entries (ascending : Ascending rows) {row : StoredMessage} (present : row ∈ rows)
    (apart : (mutations.map Mutation.column).Nodup) (allows : row.Allows now mutations (ids.count row.address))
    (repeated : 1 < ids.count row.address) (recounts : Recounts now mutations rows ids outcomes)
    {report : MessageId → MutationOutcome} (alike : outcomes = ids.map report) :
    row.SettledBy mutations := by
  have reported (earlier later : List MessageId) (parts : ids = earlier ++ row.address :: later) :
      report row.address = .mutated row.address (row.mutateEach now mutations (earlier ++ [row.address])).scheduledAt
        (row.mutateEach now mutations (earlier ++ [row.address])).remaining := by
    have entry := recounts.entry earlier row.address later parts
    rw [alike, parts, outcomeIn_mutateEach ascending present] at entry
    simpa using entry
  -- The first two places where the message is named.
  obtain ⟨front, rest, parts, fresh⟩ := List.eq_append_cons_of_mem
    (List.count_pos_iff.mp (Nat.lt_trans Nat.one_pos repeated))
  have unnamed : front.count row.address = 0 := List.count_eq_zero.mpr fresh
  have further : row.address ∈ rest := by
    rw [parts, List.count_append, List.count_cons_self, unnamed, Nat.zero_add] at repeated
    exact List.count_pos_iff.mp (Nat.lt_of_succ_lt_succ repeated)
  obtain ⟨middle, back, others, absent⟩ := List.eq_append_cons_of_mem further
  have once : row.mutateEach now mutations (front ++ [row.address]) = row.mutated now mutations := by
    rw [StoredMessage.mutateEach_eq_iterate, List.count_append, unnamed, List.count_singleton_self]
    rfl
  have twice : row.mutateEach now mutations (front ++ row.address :: middle ++ [row.address]) =
      (row.mutated now mutations).mutated now mutations := by
    rw [StoredMessage.mutateEach_eq_iterate, List.count_append, List.count_append, List.count_cons_self, unnamed,
      List.count_eq_zero.mpr absent, List.count_singleton_self]
    rfl
  have first := reported front rest parts
  have second := reported (front ++ row.address :: middle) back (by rw [parts, others]; simp)
  rw [once] at first
  rw [twice, first] at second
  injection second with _ schedule attempts
  have again := StoredMessage.mutated_twice_iff apart (allows 0 (Nat.lt_trans Nat.one_pos repeated)) (allows 1 repeated)
  refine again.mpr (StoredMessage.mutated_eq_of_column fun column => ?_)
  cases column with
  | attempts => exact attempts.symm
  | schedule => exact schedule.symm

/-- Entries that each depend on the message alone are read off it. -/
theorem eq_map_of_entries (count : outcomes.length = ids.length) {report : MessageId → MutationOutcome}
    (entries : ∀ earlier id later, ids = earlier ++ id :: later → outcomes[earlier.length]? = some (report id)) :
    outcomes = ids.map report := by
  refine List.ext_getElem? fun position => ?_
  rw [List.getElem?_map]
  by_cases inside : position < ids.length
  · have parts : ids = ids.take position ++ ids[position] :: ids.drop (position + 1) := by
      rw [List.getElem_cons_drop, List.take_append_drop]
    have entry := entries _ _ _ parts
    rw [List.length_take, Nat.min_eq_left (Nat.le_of_lt inside)] at entry
    rw [entry, List.getElem?_eq_getElem inside]
    rfl
  · have beyond := Nat.not_lt.mp inside
    rw [List.getElem?_eq_none beyond, List.getElem?_eq_none (count ▸ beyond)]
    rfl

theorem count_once_le {once : List MessageId} (distinct : once.Nodup) (same : ∀ id, id ∈ once ↔ id ∈ ids)
    (id : MessageId) : once.count id ≤ ids.count id := by
  by_cases listed : id ∈ ids
  · exact Nat.le_trans (List.nodup_iff_count_le_one.mp distinct id) (List.count_pos_iff.mpr listed)
  · rw [List.count_eq_zero.mpr fun named => listed ((same id).mp named)]
    exact Nat.zero_le _

/-- Naming messages several times comes to the same as naming each of them once, in what is left and in what is said,
exactly if the mutations settle in one pass on all that are named again. -/
theorem repeats_alike_iff (ascending : Ascending rows) (apart : (mutations.map Mutation.column).Nodup)
    (allows : ∀ row ∈ rows, row.Allows now mutations (ids.count row.address))
    (recounts : Recounts now mutations rows ids outcomes) {once : List MessageId} (distinct : once.Nodup)
    (same : ∀ id, id ∈ once ↔ id ∈ ids) :
    (rows.map (StoredMessage.mutateEach now mutations ids) = rows.map (StoredMessage.mutateEach now mutations once) ∧
      outcomes = ids.map (outcomeIn (rows.map (StoredMessage.mutateEach now mutations ids)))) ↔
    ∀ row ∈ rows, 1 < ids.count row.address → row.SettledBy mutations := by
  constructor
  · rintro ⟨_, alike⟩ row member repeated
    exact settles_of_entries ascending member apart (allows row member) repeated recounts alike
  · intro settles
    have whole (row : StoredMessage) (member : row ∈ rows) (listed : row.address ∈ ids) :
        row.mutateEach now mutations ids = row.mutated now mutations :=
      StoredMessage.mutateEach_eq_mutated apart (allows row member) (settles row member) listed (Nat.le_refl _)
    refine ⟨List.map_congr_left fun row member => ?_, eq_map_of_entries recounts.count fun earlier id later parts => ?_⟩
    · by_cases listed : row.address ∈ ids
      · rw [whole row member listed]
        exact (StoredMessage.mutateEach_eq_mutated apart (allows row member) (settles row member)
          ((same _).mpr listed) (count_once_le distinct same _)).symm
      · rw [row.mutateEach_other _ _ listed, row.mutateEach_other _ _ fun back => listed ((same _).mp back)]
    · have front : (earlier ++ [id]).Sublist ids := by
        rw [parts]
        exact (List.singleton_sublist.mpr List.mem_cons_self).append_left earlier
      rw [recounts.entry earlier id later parts]
      by_cases there : ∃ row ∈ rows, row.address = id
      · obtain ⟨row, present, rfl⟩ := there
        have listed : row.address ∈ earlier ++ [row.address] := List.mem_concat_self
        rw [outcomeIn_mutateEach ascending present, outcomeIn_mutateEach ascending present,
          whole row present (front.subset listed), StoredMessage.mutateEach_eq_mutated apart (allows row present)
            (settles row present) listed (front.count_le _)]
      · have absent : ∀ row ∈ rows, row.address ≠ id := fun row member here => there ⟨row, member, here⟩
        rw [outcomeIn_absent absent, outcomeIn_absent absent]

/-- Where mutations come to their end, so do those that name every message once; whether it comes to the same is up to
the messages that are named again. -/
theorem mutateAll_once (ascending : Ascending table.rows) (apart : (mutations.map Mutation.column).Nodup)
    (done : table.mutateAll now mutations ids = (.ok outcomes, last)) {once : List MessageId} (distinct : once.Nodup)
    (same : ∀ id, id ∈ once ↔ id ∈ ids) :
    ∃ left, table.mutateAll now mutations once = (.ok (once.map (outcomeIn left.rows)), left) ∧
      ((last.rows = left.rows ∧ outcomes = ids.map (outcomeIn last.rows)) ↔
        ∀ row ∈ table.rows, 1 < ids.count row.address → row.SettledBy mutations) := by
  have allows := (mutateAll_isOk_iff ascending).mp ⟨outcomes, congrArg Prod.fst done⟩
  have fewer : ∀ row ∈ table.rows, row.Allows now mutations (once.count row.address) :=
    fun row member => (allows row member).mono (count_once_le distinct same _)
  obtain ⟨found, answer⟩ := (mutateAll_isOk_iff ascending).mpr fewer
  rcases doneOnce : table.mutateAll now mutations once with ⟨result, left⟩
  rw [doneOnce] at answer
  cases answer
  obtain ⟨rows, recounts⟩ := mutateAll_answers ascending done
  obtain ⟨rowsOnce, recountsOnce⟩ := mutateAll_answers ascending doneOnce
  have single : ∀ row ∈ table.rows, 1 < once.count row.address → row.SettledBy mutations :=
    fun row _ repeated => absurd repeated (Nat.not_lt.mpr (List.nodup_iff_count_le_one.mp distinct _))
  obtain ⟨_, said⟩ :=
    (repeats_alike_iff ascending apart fewer recountsOnce distinct fun _ => Iff.rfl).mpr single
  refine ⟨left, ?_, ?_⟩
  · rw [rowsOnce, ← said]
  · rw [rows, rowsOnce]
    exact repeats_alike_iff ascending apart allows recounts distinct same

theorem mutateAll_no_rows (sequence : IdSequence) (now : Instant) (mutations : List Mutation) (ids : List MessageId) :
    mutateAll now mutations ids ⟨sequence, []⟩ = (.ok (ids.map .notFound), ⟨sequence, []⟩) := by
  induction ids with
  | nil => rfl
  | cons id rest ih =>
    unfold mutateAll
    change (_, _) = _
    rw [ih]
    rfl

end Table

theorem Mutation.columns_apart {mutations : List Mutation} (accepted : Mutation.validateAll mutations = .ok ()) :
    (mutations.map Mutation.column).Nodup := by
  by_contra repeated
  unfold validateAll require at accepted
  rw [decide_eq_false repeated] at accepted
  split at accepted <;> cases accepted

namespace Run

open Database

variable {queue : Queue} {mutations : List Mutation} {ids once : List MessageId} {before after : Database}

/-- Past its checks a mutation works on the rows of its table, and without a table on none. -/
theorem mutate_works (queue : Queue) {now : Instant} (clock : before.now = .ok now)
    (valid : (Mutation.validateAll mutations >>= fun _ => mutations.forM checkMutation) = .ok ()) :
    ∃ table : Table, table.rows = before.rows queue.table ∧ ∀ ids, ∃ after,
      (mutate queue mutations ids).run.run before = ((table.mutateAll now mutations ids).1.map .ok, after) ∧
        after.rows queue.table = (table.mutateAll now mutations ids).2.rows := by
  cases found : before.table? queue.name with
  | none =>
    refine ⟨⟨⟨.default, 0, 0⟩, []⟩, (rows_of_none found).symm, fun ids => ⟨before, ?_, ?_⟩⟩
    · rw [mutate_eq, valid, clock, found, Table.mutateAll_no_rows]
      rfl
    · rw [Table.mutateAll_no_rows]
      exact rows_of_none found
  | some table =>
    refine ⟨table, (rows_of_table found).symm, fun ids => ⟨_, ?_, rows_setTable before queue.name _⟩⟩
    rw [mutate_eq, valid, clock, found]

/-- Mutations pass over a message once for each time it is named, and each entry says how the message stands after the
passes so far. What is left is the same as if every message were named once, and every entry says how its message stands
in the end, exactly if the mutations settle in one pass on the messages that are named again. -/
theorem mutate_passes_each_time (accepted : Mutation.validateAll mutations = .ok ())
    (ascending : Table.Ascending (before.rows queue.table)) {answer : Except Error (List MutationOutcome)}
    (ran : (mutate queue mutations ids).run.run before = (.ok answer, after))
    (distinct : once.Nodup) (same : ∀ id, id ∈ once ↔ id ∈ ids) :
    ∃ single left, (mutate queue mutations once).run.run before = (.ok single, left) ∧
      (∀ failure, answer = .error failure → single = .error failure ∧ after = before ∧ left = before) ∧
      ∀ outcomes, answer = .ok outcomes → ∃ now, before.now = .ok now ∧
        let rows := before.rows queue.table
        let passes (named : List MessageId) (row : StoredMessage) :=
          (StoredMessage.mutated now mutations)^[named.count row.address] row
        after.rows queue.table = rows.map (passes ids) ∧ outcomes.length = ids.length ∧
          (∀ earlier id later, ids = earlier ++ id :: later →
            outcomes[earlier.length]? = some (Table.outcomeIn (rows.map (passes (earlier ++ [id]))) id)) ∧
          single = .ok (once.map (Table.outcomeIn (left.rows queue.table))) ∧
          ((after.rows queue.table = left.rows queue.table ∧
              outcomes = ids.map (Table.outcomeIn (after.rows queue.table))) ↔
            ∀ row ∈ rows, 1 < ids.count row.address → row.SettledBy mutations) := by
  cases valid : Mutation.validateAll mutations >>= fun _ => mutations.forM checkMutation with
  | error failure =>
    have refused (ids : List MessageId) :
        (mutate queue mutations ids).run.run before = (.ok (.error failure), before) := by
      rw [mutate_eq, valid]
    rw [refused] at ran
    cases ran
    exact ⟨_, _, refused once, fun _ same => ⟨same, rfl, rfl⟩, nofun⟩
  | ok _ =>
    cases clock : before.now with
    | error overflow =>
      rw [mutate_eq, valid, clock] at ran
      cases ran
    | ok now =>
      obtain ⟨table, rows, works⟩ := mutate_works queue clock valid
      rw [← rows] at ascending ⊢
      have eachTime (named : List MessageId) : StoredMessage.mutateEach now mutations named = fun row =>
          (StoredMessage.mutated now mutations)^[named.count row.address] row :=
        funext fun row => row.mutateEach_eq_iterate now mutations named
      obtain ⟨_, reran, left⟩ := works ids
      obtain ⟨single, ranOnce, leftOnce⟩ := works once
      rw [ran] at reran
      rcases done : table.mutateAll now mutations ids with ⟨result, last⟩
      rw [done] at reran left
      cases result with
      | error overflow => cases reran
      | ok outcomes =>
        cases reran
        obtain ⟨rowsAfter, count, entries⟩ := Table.mutateAll_answers ascending done
        obtain ⟨lastOnce, doneOnce, alike⟩ :=
          Table.mutateAll_once ascending (Mutation.columns_apart accepted) done distinct same
        rw [doneOnce] at ranOnce leftOnce
        simp only [eachTime] at rowsAfter entries
        refine ⟨_, single, ranOnce, nofun, fun outcomes answer => ?_⟩
        cases answer
        rw [left, leftOnce]
        exact ⟨now, rfl, rowsAfter, count, entries, rfl, alike⟩

end Run

/-- Attempts that are set stay as they are when they are set again. -/
theorem attempts_set_twice :
    let run (ids : List MessageId) := (Run.mutate (.named .jobs) [.setAttempts 3] ids).run.run oneMessage
    (run [⟨1, 1⟩, ⟨1, 1⟩]).1 = .ok (.ok [.mutated ⟨1, 1⟩ 0 3, .mutated ⟨1, 1⟩ 0 3]) ∧
      (run [⟨1, 1⟩, ⟨1, 1⟩]).2.rows (Queue.named .jobs).table = (run [⟨1, 1⟩]).2.rows (Queue.named .jobs).table := by
  intro run
  have ascending : Table.Ascending (oneMessage.rows (Queue.named .jobs).table) :=
    (replay_history .fresh sendOne).ordered Database.fresh_opened _
  have answer : (run [⟨1, 1⟩, ⟨1, 1⟩]).1 = .ok (.ok [.mutated ⟨1, 1⟩ 0 3, .mutated ⟨1, 1⟩ 0 3]) := by decide +kernel
  have ran : run [⟨1, 1⟩, ⟨1, 1⟩] = (_, _) := Prod.ext answer rfl
  obtain ⟨_, left, ranOnce, _, passes⟩ :=
    Run.mutate_passes_each_time rfl ascending ran (List.nodup_singleton ⟨1, 1⟩) (by simp)
  obtain ⟨_, _, _, _, _, _, alike⟩ := passes _ rfl
  refine ⟨answer, ?_⟩
  rw [show run [⟨1, 1⟩] = _ from ranOnce]
  refine (alike.mpr fun row _ _ mutation member => ?_).1
  obtain rfl := List.mem_singleton.mp member
  trivial

/-- An attempt that is added to a message named twice is added twice, and the entries disagree. -/
theorem attempt_added_twice :
    let run (ids : List MessageId) := (Run.mutate (.named .jobs) [.addAttempts 1] ids).run.run oneMessage
    Mutation.validateAll [.addAttempts 1] = .ok () ∧
      (run [⟨1, 1⟩, ⟨1, 1⟩]).1 = .ok (.ok [.mutated ⟨1, 1⟩ 0 6, .mutated ⟨1, 1⟩ 0 7]) ∧
      ((run [⟨1, 1⟩, ⟨1, 1⟩]).2.rows "q_jobs").map StoredMessage.remaining = [7] ∧
      ((run [⟨1, 1⟩]).2.rows "q_jobs").map StoredMessage.remaining = [6] := by
  refine ⟨rfl, ?_, ?_, ?_⟩ <;> decide +kernel

end LeaseQueue
