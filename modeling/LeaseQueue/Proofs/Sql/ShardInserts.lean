import LeaseQueue.Proofs.Cluster.Assignment
import LeaseQueue.Proofs.Queue.Report
import LeaseQueue.Proofs.Sql.Effects
import LeaseQueue.Proofs.Sweep.Loop
import LeaseQueue.Sql.Cluster

/-!
The bootstrap of the shards over a database. Its inserts hold every shard once, with the owner that was drawn for it, in
batches of a bounded size. Either all of them stay or none does.
-/
namespace LeaseQueue

/-- Under valid settings a batch has room for a shard. -/
theorem ClusterSettings.batch_of_valid {settings : ClusterSettings} (valid : settings.validate = .ok ()) :
    settings.shardInsertBatch ≠ 0 := by
  obtain ⟨-, valid⟩ := require_bind_eq_ok_iff.mp valid
  obtain ⟨-, valid⟩ := require_bind_eq_ok_iff.mp valid
  obtain ⟨batch, -⟩ := require_bind_eq_ok_iff.mp valid
  exact of_decide_eq_true batch

namespace Sql

/-- The exchanges of statements that were carried out. -/
def carriedOut (done : List Work) : Exchanges := done.map fun work => ⟨.query work.statement, some work.found⟩

/-- How many rows the statements wrote. -/
def written (done : List Work) : Nat := (done.map fun work => work.found.affected).sum

theorem carriedOut_adds (done : List Work) : Ledger.Adds (carriedOut done) done := by
  induction done with
  | nil => exact .nil
  | cons work rest ih => exact (Ledger.Adds.query work.statement (some work.found)).append ih

namespace Action

variable {α : Type} {context beginning committing : String} {body : Action (Except Error α)} {exchanges : Exchanges}

/-! Runs there are. -/

theorem execute_found (statement : Statement) (found : Option ResultSet) :
    (execute context statement).Ends [⟨.query statement, found⟩] (found.elim (failed context) .ok) := by
  refine Program.ends_ask_bind.mpr ⟨found, [], rfl, ?_⟩
  cases found <;> exact ⟨rfl, rfl⟩

theorem inTransaction_unbegun :
    (inTransaction beginning committing body).Ends [⟨.begin, false⟩] (failed beginning) :=
  Program.ends_ask_bind.mpr ⟨false, [], rfl, rfl, rfl⟩

theorem inTransaction_left {failure : Error} (ran : body.Ends exchanges (.error failure)) :
    (inTransaction beginning committing body).Ends (⟨.begin, true⟩ :: (exchanges ++ [⟨.leave, ()⟩]))
      (.error failure) := by
  refine Program.ends_ask_bind.mpr ⟨true, _, rfl, ?_⟩
  refine Program.ends_bind.mpr ⟨_, exchanges, _, rfl, ran, ?_⟩
  exact Program.ends_ask_bind.mpr ⟨(), [], rfl, rfl, rfl⟩

theorem inTransaction_closed {value : α} (ran : body.Ends exchanges (.ok value)) (committed : Bool) :
    (inTransaction beginning committing body).Ends (⟨.begin, true⟩ :: (exchanges ++ [⟨.commit, committed⟩]))
      (if committed then .ok value else failed committing) := by
  refine Program.ends_ask_bind.mpr ⟨true, _, rfl, ?_⟩
  refine Program.ends_bind.mpr ⟨_, exchanges, _, rfl, ran, ?_⟩
  refine Program.ends_ask_bind.mpr ⟨committed, [], rfl, ?_⟩
  cases committed <;> exact ⟨rfl, rfl⟩

/-- A statement that fails is the last one; behind any other the rest of them are sent. -/
theorem executeAll_cons_ends {statement : Statement} {rest : List Statement} {outcome : Except Error Nat} :
    (executeAll context (statement :: rest)).Ends exchanges outcome ↔
      (exchanges = [⟨.query statement, none⟩] ∧ outcome = failed context) ∨
      ∃ found later others, exchanges = ⟨.query statement, some found⟩ :: later ∧
        (executeAll context rest).Ends later others ∧ outcome = others.map (found.affected + ·) := by
  rw [executeAll, Program.ends_bind]
  constructor
  · rintro ⟨result, first, later, rfl, ran, ends⟩
    obtain ⟨found, rfl, rfl⟩ := execute_ends ran
    cases found with
    | none =>
      obtain ⟨rfl, rfl⟩ := ends
      exact .inl ⟨rfl, rfl⟩
    | some found =>
      obtain ⟨others, sent, rfl⟩ := Program.ends_bind_pure.mp ends
      exact .inr ⟨found, later, others, rfl, sent, rfl⟩
  · rintro (⟨rfl, rfl⟩ | ⟨found, later, others, rfl, sent, rfl⟩)
    · exact ⟨failed context, _, [], rfl, execute_found statement none, rfl, rfl⟩
    · exact ⟨.ok found, [_], later, rfl, execute_found statement (some found),
        Program.ends_bind_pure.mpr ⟨others, sent, rfl⟩⟩

/-- Statements are sent in order, either all of them or up to the first one that fails. -/
theorem executeAll_ends {statements : List Statement} {outcome : Except Error Nat} :
    (executeAll context statements).Ends exchanges outcome ↔
      (∃ done : List Work, done.map Work.statement = statements ∧ exchanges = carriedOut done ∧
        outcome = .ok (written done)) ∨
      ∃ (done : List Work) (stopped : Statement), done.map Work.statement ++ [stopped] <+: statements ∧
        exchanges = carriedOut done ++ [⟨.query stopped, none⟩] ∧ outcome = failed context := by
  induction statements generalizing exchanges outcome with
  | nil =>
    constructor
    · rintro ⟨rfl, rfl⟩
      exact .inl ⟨[], rfl, rfl, rfl⟩
    · rintro (⟨done, none, rfl, rfl⟩ | ⟨done, stopped, sent, -⟩)
      · obtain rfl := List.map_eq_nil_iff.mp none
        exact ⟨rfl, rfl⟩
      · simp at sent
  | cons statement rest ih =>
    rw [executeAll_cons_ends]
    constructor
    · rintro (⟨rfl, rfl⟩ | ⟨found, later, others, rfl, ends, rfl⟩)
      · exact .inr ⟨[], statement, List.prefix_append [statement] rest, rfl, rfl⟩
      · rcases ih.mp ends with ⟨done, rfl, rfl, rfl⟩ | ⟨done, stopped, sent, rfl, rfl⟩
        · exact .inl ⟨⟨statement, found⟩ :: done, rfl, rfl, rfl⟩
        · exact .inr ⟨⟨statement, found⟩ :: done, stopped, (List.prefix_cons_inj statement).mpr sent, rfl, rfl⟩
    · rintro (⟨_ | ⟨work, done⟩, same, rfl, rfl⟩ | ⟨_ | ⟨work, done⟩, stopped, sent, rfl, rfl⟩)
      · cases same
      · obtain ⟨rfl, others⟩ := List.cons_eq_cons.mp same
        exact .inr ⟨work.found, _, _, rfl, ih.mpr (.inl ⟨done, others, rfl, rfl⟩), rfl⟩
      · obtain ⟨rfl, -⟩ := List.cons_prefix_cons.mp sent
        exact .inl ⟨rfl, rfl⟩
      · obtain ⟨rfl, others⟩ := List.cons_prefix_cons.mp sent
        exact .inr ⟨work.found, carriedOut done ++ [⟨.query stopped, none⟩], _, rfl,
          ih.mpr (.inr ⟨done, stopped, others, rfl, rfl⟩), rfl⟩

end Action

/-- What a bootstrap with some inserts exchanges with the database, what it answers and what stays of it. -/
inductive Bootstraps (inserts : List Statement) : Exchanges → Except Error Nat → List Work → Prop
  | unbegun : Bootstraps inserts [⟨.begin, false⟩] (Action.failed "begin shard bootstrap failed") []
  /-- An insert fails; no other one is sent after it. -/
  | stopped {done : List Work} {insert : Statement} (sent : done.map Work.statement ++ [insert] <+: inserts) :
    Bootstraps inserts (⟨.begin, true⟩ :: (carriedOut done ++ [⟨.query insert, none⟩] ++ [⟨.leave, ()⟩]))
      (Action.failed "insert shards failed") []
  | uncommitted {done : List Work} (sent : done.map Work.statement = inserts) :
    Bootstraps inserts (⟨.begin, true⟩ :: (carriedOut done ++ [⟨.commit, false⟩]))
      (Action.failed "commit shard bootstrap failed") []
  | committed {done : List Work} (sent : done.map Work.statement = inserts) :
    Bootstraps inserts (⟨.begin, true⟩ :: (carriedOut done ++ [⟨.commit, true⟩])) (.ok (written done)) done

namespace Bootstraps

variable {inserts : List Statement} {exchanges : Exchanges} {answer : Except Error Nat} {kept : List Work}

/-- No transaction is left open, and what stays is what was committed. -/
theorem ledger (bootstraps : Bootstraps inserts exchanges answer kept) :
    Ledger.empty.after exchanges = ⟨kept, []⟩ := by
  cases bootstraps with
  | unbegun => rfl
  | @stopped done insert sent =>
    have within := (carriedOut_adds done).append (Ledger.Adds.query insert none)
    exact within.undone (fun _ => rfl) _
  | uncommitted sent => exact (carriedOut_adds _).undone (fun _ => rfl) _
  | committed sent => exact (carriedOut_adds _).committed _

/-- The runs of a bootstrap are these and no others. -/
theorem iff_ends : (∃ kept, Bootstraps inserts exchanges answer kept) ↔
    (Action.inTransaction "begin shard bootstrap failed" "commit shard bootstrap failed"
      (Action.executeAll "insert shards failed" inserts)).Ends exchanges answer := by
  constructor
  · rintro ⟨_, _ | sent | sent | sent⟩
    · exact Action.inTransaction_unbegun
    · exact Action.inTransaction_left (Action.executeAll_ends.mpr (.inr ⟨_, _, sent, rfl, rfl⟩))
    · exact Action.inTransaction_closed (Action.executeAll_ends.mpr (.inl ⟨_, sent, rfl, rfl⟩)) false
    · exact Action.inTransaction_closed (Action.executeAll_ends.mpr (.inl ⟨_, sent, rfl, rfl⟩)) true
  · intro ends
    rw [Action.inTransaction_eq] at ends
    rcases Action.enclosed_ends ends with ⟨rfl, rfl⟩ | ⟨within, outcome, ending, rfl, ran, ended⟩
    · exact ⟨[], .unbegun⟩
    · rcases Action.executeAll_ends.mp ran with ⟨done, sent, rfl, rfl⟩ | ⟨done, insert, sent, rfl, rfl⟩
      · obtain ⟨committed, rfl, rfl⟩ := ended
        cases committed with
        | false => exact ⟨[], .uncommitted sent⟩
        | true => exact ⟨done, .committed sent⟩
      · obtain ⟨⟨reply, rfl⟩, rfl⟩ := ended
        exact ⟨[], .stopped sent⟩

end Bootstraps

/-- Batches of shards, each with the owners of its shards beside them, hold every shard of a cluster once. -/
structure Covers (settings : ClusterSettings) (nodes : List String) (records : List ShardRecord)
    (batches : List (List Int × List String)) : Prop where
  count : batches.length =
    (settings.shardCount.toNat + settings.shardInsertBatch - 1) / settings.shardInsertBatch
  shards : batches.flatMap Prod.fst = (List.range settings.shardCount.toNat).map fun index : Nat => (index : Int) + 1
  bounded : ∀ batch ∈ batches, batch.1.length ≤ settings.shardInsertBatch
  aligned : ∀ batch ∈ batches, batch.2.length = batch.1.length
  /-- The numbers are bound as they are if all of them fit. -/
  bound : settings.shardCount ≤ Int32.maxValue.toInt → ∀ batch ∈ batches, ∃ numbers : List Int32,
    (insertShardsStatement batch.1 batch.2).params = [.array ⟨.int, numbers⟩, .array ⟨.text, batch.2⟩] ∧
      numbers.map Int32.toInt = batch.1
  /-- An owner is a node, and the one of the only record of its shard. -/
  owned : ∀ batch ∈ batches, ∀ pair ∈ batch.1.zip batch.2, pair.2 ∈ nodes ∧
    ∀ record, record ∈ records ∧ record.shard = pair.1 ↔ record = .ownedBy pair.1 pair.2

/-- Shard numbers that fit are bound as they are, beside their owners. -/
theorem insertShardsStatement_binds {shards : List Int} (owners : List String)
    (fit : ∀ shard ∈ shards, 1 ≤ shard ∧ shard ≤ Int32.maxValue.toInt) :
    ∃ numbers : List Int32, (insertShardsStatement shards owners).params =
      [.array ⟨.int, numbers⟩, .array ⟨.text, owners⟩] ∧ numbers.map Int32.toInt = shards := by
  refine ⟨shards.map Int32.ofInt, rfl, ?_⟩
  rw [List.map_map]
  refine (List.map_congr_left fun shard member => ?_).trans (List.map_id _)
  obtain ⟨lower, upper⟩ := fit shard member
  exact Int32.toInt_ofInt_of_le (by omega) (Int.lt_add_one_of_le upper)

/-- The records of a bootstrap in batches. -/
def batchesOf (size : Nat) (records : List ShardRecord) : List (List Int × List String) :=
  (chunks size records).map fun chunk => (chunk.map ShardRecord.shard, chunk.map ShardRecord.producer)

theorem batchesOf_covers {settings : ClusterSettings} (positive : settings.shardInsertBatch ≠ 0) {nodes : List String}
    {records : List ShardRecord} (assigns : Assigns nodes (allShards settings.shardCount) records) :
    Covers settings nodes records (batchesOf settings.shardInsertBatch records) := by
  have whole := flatten_chunks positive records
  have number : records.length = settings.shardCount.toNat := by
    have same := congrArg List.length assigns.numbers
    simpa [allShards] using same
  have present {chunk : List ShardRecord} {record : ShardRecord}
      (member : chunk ∈ chunks settings.shardInsertBatch records) (inside : record ∈ chunk) : record ∈ records := by
    rw [← whole]
    exact List.mem_flatten_of_mem member inside
  unfold batchesOf
  constructor
  case count => rw [List.length_map, length_chunks positive, number]
  case shards =>
    rw [List.flatMap_map]
    dsimp only
    rw [List.flatMap_def, ← List.map_flatten, whole, assigns.numbers]
    rfl
  case bounded =>
    rw [List.forall_mem_map]
    intro chunk member
    rw [List.length_map]
    exact length_le_of_mem_chunks member
  case aligned =>
    rw [List.forall_mem_map]
    intro chunk _
    rw [List.length_map, List.length_map]
  case bound =>
    intro few
    rw [List.forall_mem_map]
    intro chunk member
    refine insertShardsStatement_binds _ ?_
    rw [List.forall_mem_map]
    intro record inside
    have numbered : record.shard ∈ allShards settings.shardCount := by
      rw [← assigns.numbers]
      exact List.mem_map_of_mem (present member inside)
    obtain ⟨lower, upper⟩ := mem_allShards.mp numbered
    exact ⟨lower, Int.le_trans upper few⟩
  case owned =>
    rw [List.forall_mem_map]
    intro chunk member
    rw [List.zip_map', List.forall_mem_map]
    intro record inside
    exact assigns.owner (allShards_nodup _) (present member inside)

namespace Action

/-- A bootstrap of the shards sends every shard with the owner that was drawn for it, in batches of a bounded size and
in one transaction. It answers the number of rows that were written once all of that is committed, and otherwise fails
and leaves nothing. Without a node nothing is sent. -/
theorem bootstrapShards_covers {settings : ClusterSettings} (valid : settings.validate = .ok ()) (nodes : List String)
    (source : RandomSource) :
    (nodes = [] → ∀ exchanges answer, (bootstrapShards settings nodes source).Ends exchanges answer ↔
      exchanges = [] ∧ answer = refuse .noNodes) ∧
    (nodes ≠ [] → ∃ records rest batches,
      initialAssignment settings.shardCount nodes source = .ok (records, rest) ∧
      Covers settings nodes records batches ∧
      ∀ exchanges answer, (bootstrapShards settings nodes source).Ends exchanges answer ↔
        ∃ kept, Bootstraps (batches.map fun batch => insertShardsStatement batch.1 batch.2) exchanges answer kept ∧
          Ledger.empty.after exchanges = ⟨kept, []⟩) := by
  constructor
  · rintro rfl exchanges answer
    rfl
  · intro filled
    have assigned : initialAssignment settings.shardCount nodes source =
        .ok (assignShards nodes (allShards settings.shardCount) source) := if_neg (mt List.isEmpty_iff.mp filled)
    have assigns := assignShards_assigns filled (allShards settings.shardCount) source
    rcases drawn : assignShards nodes (allShards settings.shardCount) source with ⟨records, rest⟩
    rw [drawn] at assigned assigns
    have covers := batchesOf_covers (ClusterSettings.batch_of_valid valid) assigns
    refine ⟨records, rest, _, assigned, covers, fun exchanges answer => ?_⟩
    unfold bootstrapShards
    rw [assigned]
    unfold batchesOf
    rw [List.map_map]
    constructor
    · intro ends
      obtain ⟨kept, bootstraps⟩ := Bootstraps.iff_ends.mpr ends
      exact ⟨kept, bootstraps, bootstraps.ledger⟩
    · rintro ⟨kept, bootstraps, -⟩
      exact Bootstraps.iff_ends.mp ⟨kept, bootstraps⟩

end Action

/-- Five shards, two to an insert. -/
def fiveShards : ClusterSettings := ⟨7, 5, 2, 4⟩

/-- Three inserts hold the five shards. A bootstrap in which they write a row for each answers that once it is
committed. -/
theorem five_shards_bootstrapped :
    ∃ batches : List (List Int × List String), batches.length = 3 ∧ batches.flatMap Prod.fst = [1, 2, 3, 4, 5] ∧
      (∀ batch ∈ batches, batch.1.length ≤ 2) ∧
      ∃ exchanges kept, (Action.bootstrapShards fiveShards ["left", "right"] (.ofSeed [] 2)).Ends exchanges (.ok 5) ∧
        kept.length = 3 ∧ Ledger.empty.after exchanges = ⟨kept, []⟩ := by
  have valid : fiveShards.validate = .ok () := rfl
  obtain ⟨-, covered⟩ := Action.bootstrapShards_covers valid ["left", "right"] (.ofSeed [] 2)
  obtain ⟨records, rest, batches, -, covers, runs⟩ := covered (List.cons_ne_nil _ _)
  have three : batches.length = 3 := covers.count
  have all : batches.flatMap Prod.fst = [1, 2, 3, 4, 5] := covers.shards
  let done : List Work := batches.map fun batch => ⟨insertShardsStatement batch.1 batch.2, ⟨[], batch.1.length⟩⟩
  have sent : done.map Work.statement = batches.map fun batch => insertShardsStatement batch.1 batch.2 := by
    unfold done
    rw [List.map_map]
    rfl
  have rows : written done = 5 := by
    have total := congrArg List.length all
    rw [List.length_flatMap] at total
    unfold written done
    rw [List.map_map]
    exact total
  have bootstraps := Bootstraps.committed sent
  have kept := bootstraps.ledger
  rw [rows] at bootstraps
  refine ⟨batches, three, all, covers.bounded, _, done, (runs _ _).mpr ⟨done, bootstraps, kept⟩, ?_, kept⟩
  unfold done
  rw [List.length_map, three]

end Sql

end LeaseQueue
