import LeaseQueue.Proofs.Memory.Receives

/-!
Receives from different shards. What one of them leases is nothing that the other one looks at, so they can be made in
either order.
-/
namespace LeaseQueue

theorem StoredMessage.listed_of_candidate {row : StoredMessage} {now : Instant} {shards : List Int}
    (candidate : row.isCandidate now (some shards)) : row.shard ∈ shards := by
  unfold isCandidate at candidate
  rw [Bool.and_eq_true, Option.all_some, List.contains_iff_mem] at candidate
  exact candidate.2

/-- A change touches no row outside the given shards. -/
def Confined (shards : List Int) (rows : List StoredMessage) (change : StoredMessage → StoredMessage) : Prop :=
  ∀ row ∈ rows, row.shard ∉ shards → ∀ version, version.id = row.id → change version = version

/-- A consumer of some shards is offered the same rows before and after a change of others. -/
theorem Table.candidates_of_confined {shards others : List Int} {rows : List StoredMessage}
    {change : StoredMessage → StoredMessage} (confined : Confined shards rows change)
    (same : ∀ row ∈ rows, (change row).receipt = row.receipt) (disjoint : shards.Disjoint others) (now : Instant) :
    ((rows.map change).filter fun row => row.isCandidate now (some others)) =
      rows.filter fun row => row.isCandidate now (some others) := by
  have unlisted {row : StoredMessage} (elsewhere : row.shard ∈ shards) : ¬ row.isCandidate now (some others) :=
    fun candidate => disjoint elsewhere (StoredMessage.listed_of_candidate candidate)
  induction rows with
  | nil => rfl
  | cons row rest ih =>
    have later := ih (fun row member => confined row (List.mem_cons_of_mem _ member))
      fun row member => same row (List.mem_cons_of_mem _ member)
    rw [List.map_cons, List.filter_cons, List.filter_cons, later]
    by_cases own : row.shard ∈ shards
    · have kept : (change row).shard = row.shard :=
        congrArg (fun receipt : Receipt => receipt.address.shard) (same row List.mem_cons_self)
      rw [if_neg (unlisted own), if_neg (unlisted (kept ▸ own))]
    · rw [confined row List.mem_cons_self own row rfl]

namespace Run

open Database

/-- Two calls can be made in either order: each is answered alike, and the tables end up the same. -/
structure Interchangeable {α : Type} (one other : Run α) (before : Database) : Prop where
  earlier : (one.run.run (other.run.run before).2).1 = (one.run.run before).1
  later : (other.run.run (one.run.run before).2).1 = (other.run.run before).1
  tables : (other.run.run (one.run.run before).2).2.tables = (one.run.run (other.run.run before).2).2.tables

variable {queue : Queue} {options first second : ReceiveOptions} {before after : Database} {shards others : List Int}

/-- A receive touches rows of its own shards only. -/
theorem leasing_confined {now : Instant} (visibility : Duration) (listed : options.shards = some shards)
    (ascending : Table.Ascending (before.rows queue.table)) :
    Confined shards (before.rows queue.table) (leasing now visibility (picked queue options now before)).2 := by
  intro row member elsewhere version same
  cases done : picked queue options now before with
  | error failure => rfl
  | ok chosen =>
    refine leasing_unpicked now visibility fun other there equal => ?_
    obtain ⟨present, candidate⟩ := (picked_spec ascending done).2 other there
    obtain rfl := Table.eq_of_id ascending member present (same.symm.trans equal)
    rw [listed] at candidate
    exact elsewhere (StoredMessage.listed_of_candidate candidate)

theorem received_confined (listed : options.shards = some shards)
    (ascending : Table.Ascending (before.rows queue.table)) :
    Confined shards (before.rows queue.table) (received queue options before).2 := by
  rcases received_cases queue options before with ⟨_, same, _⟩ | ⟨now, visibility, _, same⟩
  · rw [same]
    exact fun _ _ _ _ _ => rfl
  · rw [same]
    exact leasing_confined visibility listed ascending

/-- A receive gives out rows of its own shards only. -/
theorem received_listed (listed : options.shards = some shards) (ascending : Table.Ascending (before.rows queue.table))
    {messages : List LeasedMessage} (done : (received queue options before).1 = .ok (.ok messages)) :
    ∀ message ∈ messages, ∃ row ∈ before.rows queue.table, row.shard ∈ shards ∧ message.id = row.address := by
  rcases received_cases queue options before with ⟨_, same, failed⟩ | ⟨now, visibility, _, same⟩
  · rw [same] at done
    exact absurd done (failed messages)
  · rw [same] at done
    cases picks : picked queue options now before with
    | error failure =>
      rw [picks] at done
      cases done
    | ok chosen =>
      rw [picks] at done
      intro message given
      obtain ⟨row, there, named⟩ := leasing_message done given
      obtain ⟨present, candidate⟩ := (picked_spec ascending picks).2 row there
      rw [listed] at candidate
      exact ⟨row, present, StoredMessage.listed_of_candidate candidate, named⟩

/-- A receive goes as it would have gone before a change of other shards. -/
theorem received_apart {change : StoredMessage → StoredMessage} (changes : Changes queue.table change before after)
    (confined : Confined shards (before.rows queue.table) change) (same : ∀ row, (change row).receipt = row.receipt)
    (listed : options.shards = some others) (disjoint : shards.Disjoint others) :
    received queue options after = received queue options before := by
  have picks (now : Instant) : picked queue options now after = picked queue options now before := by
    have sequence : IdSequence := ⟨.default, 0, 0⟩
    rw [picked_eq sequence, picked_eq sequence, changes.rows]
    unfold Table.choose
    dsimp only
    rw [listed, Table.candidates_of_confined confined (fun row _ => same row) disjoint]
  unfold received
  rw [changes.now]
  simp only [picks]

/-- Receives from different shards do not interfere while nothing is swept: in either order each gets the same answer
and the tables end up the same, and no message is given to both. -/
theorem disjoint_receives_interchange {engine counterpart : SweepEngine} (unswept : engine.settings.enabled = false)
    (calm : counterpart.settings.enabled = false) (source resource : RandomSource)
    (left : first.shards = some shards) (right : second.shards = some others) (disjoint : shards.Disjoint others)
    (ascending : Table.Ascending (before.rows queue.table)) :
    let one := receive engine (engine.settings.drawSweep source).1 queue first
    let other := receive counterpart (counterpart.settings.drawSweep resource).1 queue second
    Interchangeable one other before ∧
      ∀ messages rest, (one.run.run before).1 = .ok (.ok messages) → (other.run.run before).1 = .ok (.ok rest) →
        ∀ message ∈ messages, ∀ further ∈ rest, message.id.localId ≠ further.id.localId := by
  have still : (engine.settings.drawSweep source).1 = false := by
    rw [SweepSettings.drawSweep, unswept]
    rfl
  have quiet : (counterpart.settings.drawSweep resource).1 = false := by
    rw [SweepSettings.drawSweep, calm]
    rfl
  dsimp only
  rw [still, quiet]
  have marks := received_receipt queue first before
  have remarks := received_receipt queue second before
  have confined := received_confined left ascending
  have reconfined := received_confined right ascending
  obtain ⟨one, ran, changes⟩ := @unswept_receive_received queue first before engine ascending
  obtain ⟨other, reran, rechanges⟩ := @unswept_receive_received queue second before counterpart ascending
  have ordered : Table.Ascending (one.rows queue.table) := changes.rows ▸ ascending.map fun row _ => marks row
  have reordered : Table.Ascending (other.rows queue.table) := rechanges.rows ▸ ascending.map fun row _ => remarks row
  obtain ⟨next, then_ran, later⟩ := @unswept_receive_received queue second one counterpart ordered
  obtain ⟨last, then_reran, relater⟩ := @unswept_receive_received queue first other engine reordered
  rw [received_apart changes confined marks right disjoint] at then_ran later
  rw [received_apart rechanges reconfined remarks left fun _ here there => disjoint there here] at then_reran relater
  constructor
  · refine ⟨?_, ?_, ?_⟩
    · rw [reran, then_reran, ran]
    · rw [ran, then_ran, reran]
    · rw [ran, then_ran, reran, then_reran]
      refine (changes.trans later).tables_eq (rechanges.trans relater) fun row member => ?_
      dsimp only [Function.comp_apply]
      -- A row is in the shards of one receive at most, and the other one leaves every version of it alone.
      by_cases own : row.shard ∈ shards
      · have spared := reconfined row member (disjoint own)
        rw [spared _ (StoredMessage.receipt_id (marks row)), spared row rfl]
      · have spared := confined row member own
        rw [spared _ (StoredMessage.receipt_id (remarks row)), spared row rfl]
  · intro messages rest given regiven message here further there same
    rw [ran] at given
    rw [reran] at regiven
    obtain ⟨row, present, own, named⟩ := received_listed left ascending given message here
    obtain ⟨twin, represent, foreign, renamed⟩ := received_listed right ascending regiven further there
    rw [named, renamed] at same
    obtain rfl := Table.eq_of_id ascending present represent same
    exact disjoint own foreign

end Run

/-- A message in each of two shards. -/
def splitChores : Database :=
  Database.fresh.setTable chores.name
    ⟨⟨.default, 0, 3⟩, [⟨1, 1, 0, 0, none, 5, .empty, ∅⟩, ⟨2, 2, 0, 0, none, 5, .empty, ∅⟩]⟩

/-- Each of two consumers gets the message in its shard, whoever comes first. -/
theorem split_chores_interchange :
    let receive (shard : Int) := Run.receive ⟨.disabled, ""⟩ (SweepSettings.disabled.drawSweep (.ofSeed [] 7)).1 chores
      ⟨10, none, none, [], some [shard]⟩
    let ids (shard : Int) := ((receive shard).run.run splitChores).1.map fun outcome =>
      outcome.toOption.map fun messages => messages.map LeasedMessage.id
    ids 1 = .ok (some [⟨1, 1⟩]) ∧ ids 2 = .ok (some [⟨2, 2⟩]) ∧
      Run.Interchangeable (receive 1) (receive 2) splitChores := by
  have ascending : Table.Ascending (splitChores.rows chores.table) := by
    unfold splitChores
    rw [show chores.table = chores.name.table from rfl, Database.rows_setTable]
    exact List.pairwise_pair.mpr (by decide)
  exact ⟨by decide +kernel, by decide +kernel,
    (Run.disjoint_receives_interchange rfl rfl _ _ rfl rfl (by simp [List.Disjoint]) ascending).1⟩

end LeaseQueue
