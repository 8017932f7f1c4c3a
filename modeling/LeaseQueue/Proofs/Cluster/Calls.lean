import LeaseQueue.Memory.Cluster
import LeaseQueue.Proofs.Cluster.Assignment

/-!
Calls on a cluster in memory, by any number of clients: what each of them may do, and the histories they make up. A
call holds the only lock for as long as it reads and writes, so calls take effect one after the other.
-/
namespace LeaseQueue

/-- A node may be given no bucket, or one that the cluster has. -/
def ClusterSettings.Admits (settings : ClusterSettings) (bucket : Option Int) : Prop :=
  ∀ number, bucket = some number → 0 ≤ number ∧ number ≤ settings.maxBucket

namespace ClusterDatabase

/-! Rows that are added where there are none. -/

theorem getElem?_addVacant (shards : ShardMap) (record : ShardRecord) (shard : Int) :
    (addVacant shards record)[shard]? = shards[shard]?.or (if record.shard = shard then some record else none) := by
  unfold addVacant
  by_cases taken : record.shard ∈ shards
  · rw [if_pos taken]
    split
    · rename_i same
      subst same
      obtain ⟨found, there⟩ := Option.isSome_iff_exists.mp (Std.ExtTreeMap.isSome_getElem?_iff_mem.mpr taken)
      rw [there]
      rfl
    · exact Option.or_none.symm
  · rw [if_neg taken, Std.ExtTreeMap.getElem?_insert]
    simp only [Std.LawfulEqCmp.compare_eq_iff_eq]
    split
    · rename_i same
      subst same
      rw [Std.ExtTreeMap.getElem?_eq_none taken]
      rfl
    · exact Option.or_none.symm

theorem getElem?_addAll (records : List ShardRecord) (shards : ShardMap) (shard : Int) :
    (records.foldl addVacant shards)[shard]? =
      shards[shard]?.or (records.find? fun record => record.shard = shard) := by
  induction records generalizing shards with
  | nil => exact Option.or_none.symm
  | cons record rest ih =>
    rw [List.foldl_cons, ih, getElem?_addVacant, Option.or_assoc, List.find?_cons]
    by_cases same : record.shard = shard
    · simp [same]
    · simp [same]

/-- Of records with different numbers those are counted that had no row. -/
theorem size_addAll {records : List ShardRecord} (distinct : (records.map ShardRecord.shard).Nodup)
    (shards : ShardMap) : (records.foldl addVacant shards).size =
      shards.size + (records.map ShardRecord.shard).countP fun shard => shard ∉ shards := by
  induction records generalizing shards with
  | nil => rfl
  | cons record rest ih =>
    obtain ⟨fresh, distinct⟩ := List.nodup_cons.mp distinct
    rw [List.foldl_cons, ih distinct, List.map_cons, List.countP_cons]
    unfold addVacant
    by_cases taken : record.shard ∈ shards
    · simp [taken]
    · -- The numbers differ, so the new row is none of those still to come.
      have others : ((rest.map ShardRecord.shard).countP fun shard => shard ∉ shards.insert record.shard record) =
          (rest.map ShardRecord.shard).countP fun shard => shard ∉ shards := by
        refine List.countP_congr fun shard member => ?_
        have apart : record.shard ≠ shard := fun same => fresh (same ▸ member)
        simp [Std.ExtTreeMap.mem_insert, apart]
      have grown : (shards.insert record.shard record).size = shards.size + 1 := by
        simp [Std.ExtTreeMap.size_insert, taken]
      simp only [taken, if_false, others, grown]
      simp
      omega

/-- What a bootstrap of the shards does to their rows, and the number that it answers: the shards without a row get
one, stable and owned by one of the nodes. -/
structure Fills (settings : ClusterSettings) (nodes : List String) (before : ShardMap) (added : Nat)
    (after : ShardMap) : Prop where
  kept : ∀ (shard : Int) (record : ShardRecord), before[shard]? = some record → after[shard]? = some record
  filled : ∀ shard : Int, 1 ≤ shard → shard ≤ settings.shardCount → before[shard]? = none →
    ∃ owner ∈ nodes, after[shard]? = some (.ownedBy shard owner)
  outside : ∀ shard : Int, ¬ (1 ≤ shard ∧ shard ≤ settings.shardCount) → after[shard]? = before[shard]?
  counted : added = (allShards settings.shardCount).countP fun shard => shard ∉ before

theorem fills_of_assigns {settings : ClusterSettings} {nodes : List String} {records : List ShardRecord}
    (assigns : Assigns nodes (allShards settings.shardCount) records) (before : ShardMap) :
    Fills settings nodes before ((records.foldl addVacant before).size - before.size)
      (records.foldl addVacant before) := by
  have distinct : (records.map ShardRecord.shard).Nodup := assigns.numbers ▸ allShards_nodup _
  refine ⟨fun shard record there => ?_, fun shard lower upper absent => ?_, fun shard apart => ?_, ?_⟩
  · rw [getElem?_addAll, there]
    rfl
  · rw [getElem?_addAll, absent, Option.none_or]
    have listed : shard ∈ records.map ShardRecord.shard := assigns.numbers ▸ mem_allShards.mpr ⟨lower, upper⟩
    obtain ⟨record, member, rfl⟩ := List.mem_map.mp listed
    -- Another record of the number may come first; it has an owner as well.
    cases found : records.find? fun other => other.shard = record.shard with
    | none => exact absurd (decide_eq_true rfl) (List.find?_eq_none.mp found record member)
    | some first =>
      have same : first.shard = record.shard := by simpa using List.find?_some found
      obtain ⟨owner, node, owned⟩ := assigns.owned first (List.mem_of_find?_eq_some found)
      exact ⟨owner, node, congrArg some (same ▸ owned)⟩
  · rw [getElem?_addAll]
    have absent : (records.find? fun record => record.shard = shard) = none := by
      refine List.find?_eq_none.mpr fun record member same => apart ?_
      have number : record.shard = shard := of_decide_eq_true same
      exact mem_allShards.mp (assigns.numbers ▸ List.mem_map.mpr ⟨record, member, number⟩)
    rw [absent, Option.or_none]
  · rw [size_addAll distinct, assigns.numbers]
    exact Nat.add_sub_cancel_left ..

theorem Fills.mem {settings : ClusterSettings} {nodes : List String} {before after : ShardMap} {added : Nat}
    (fills : Fills settings nodes before added after) {shard : Int} (lower : 1 ≤ shard)
    (upper : shard ≤ settings.shardCount) : shard ∈ after := by
  refine Std.ExtTreeMap.isSome_getElem?_iff_mem.mp ?_
  cases held : before[shard]? with
  | some record => exact Option.isSome_of_eq_some (fills.kept shard record held)
  | none =>
    obtain ⟨owner, _, owned⟩ := fills.filled shard lower upper held
    exact Option.isSome_of_eq_some owned

theorem Fills.keyed {settings : ClusterSettings} {nodes : List String} {before after : ShardMap} {added : Nat}
    (fills : Fills settings nodes before added after)
    (keyed : ∀ (shard : Int) (record : ShardRecord), before[shard]? = some record → record.shard = shard)
    (shard : Int) (record : ShardRecord) (there : after[shard]? = some record) : record.shard = shard := by
  by_cases within : 1 ≤ shard ∧ shard ≤ settings.shardCount
  · cases held : before[shard]? with
    | some old =>
      obtain rfl : old = record := Option.some.inj ((fills.kept shard old held).symm.trans there)
      exact keyed shard old held
    | none =>
      obtain ⟨owner, _, owned⟩ := fills.filled shard within.1 within.2 held
      obtain rfl : ShardRecord.ownedBy shard owner = record := Option.some.inj (owned.symm.trans there)
      rfl
  · exact keyed shard record ((fills.outside shard within).symm.trans there)

/-- What a cluster can be asked. -/
inductive Call
  | bootstrapNode (source : RandomSource)
  | readNode
  | setBucket (bucket : Option Int)
  | bootstrapShards (nodes : List String) (source : RandomSource)
  | putShard (record : ShardRecord)
  | readShards
  /-- Nobody's call: time goes by. -/
  | elapse (wallClock : Instant)

/-- How a call ended. -/
inductive Answer
  | node (result : Except Error NodeRecord)
  | found (result : Except Error (Option NodeRecord))
  | bucketSet (result : Except Error Unit)
  | added (result : Except Error Nat)
  | shards (result : Except Error ShardMap)
  | done

def Call.perform (call : Call) (database : ClusterDatabase) : Answer × ClusterDatabase :=
  match call with
  | bootstrapNode source => Prod.map .node id ((store.bootstrapNode source).run database)
  | readNode => Prod.map .found id (store.readNode.run database)
  | setBucket bucket => Prod.map .bucketSet id ((store.setBucket bucket).run database)
  | bootstrapShards nodes source => Prod.map .added id ((store.bootstrapShards nodes source).run database)
  | putShard record => (.done, database.putShard record)
  | readShards => Prod.map .shards id (store.readShards.run database)
  | elapse wallClock => (.done, { database with wallClock := wallClock })

/-- The ways a call may go. -/
inductive Effect (before : ClusterDatabase) : Call → Answer → ClusterDatabase → Prop
  | nodeKept {source : RandomSource} {node : NodeRecord} (there : before.node = some node) :
      Effect before (.bootstrapNode source) (.node (.ok node)) before
  | nodeMade {source : RandomSource} {serverId : String} (absent : before.node = none) :
      Effect before (.bootstrapNode source) (.node (.ok ⟨serverId, none, before.wallClock⟩))
        { before with node := some ⟨serverId, none, before.wallClock⟩ }
  | nodeRead : Effect before .readNode (.found (.ok before.node)) before
  | bucketRefused {number : Int} (outside : ¬ (0 ≤ number ∧ number ≤ before.settings.maxBucket)) :
      Effect before (.setBucket (some number))
        (.bucketSet (refuse (.bucketOutOfRange number before.settings.maxBucket))) before
  | bucketEarly {bucket : Option Int} (admitted : before.settings.Admits bucket) (absent : before.node = none) :
      Effect before (.setBucket bucket) (.bucketSet (.error .nodeNotBootstrapped)) before
  | bucketSet {bucket : Option Int} {node : NodeRecord} (admitted : before.settings.Admits bucket)
      (there : before.node = some node) :
      Effect before (.setBucket bucket) (.bucketSet (.ok ()))
        { before with node := some { node with bucket := bucket } }
  | nobody {source : RandomSource} : Effect before (.bootstrapShards [] source) (.added (refuse .noNodes)) before
  | filled {nodes : List String} {source : RandomSource} {added : Nat} {shards : ShardMap} (someone : nodes ≠ [])
      (fills : Fills before.settings nodes before.shards added shards) :
      Effect before (.bootstrapShards nodes source) (.added (.ok added)) { before with shards := shards }
  | shardPut {record : ShardRecord} : Effect before (.putShard record) .done (before.putShard record)
  | shardsRead : Effect before .readShards (.shards (.ok before.shards)) before
  | elapsed {wallClock : Instant} : Effect before (.elapse wallClock) .done { before with wallClock := wallClock }

theorem bootstrapNode_effect (source : RandomSource) (database : ClusterDatabase) :
    Effect database (.bootstrapNode source) ((Call.bootstrapNode source).perform database).1
      ((Call.bootstrapNode source).perform database).2 := by
  obtain ⟨settings, wallClock, node, shards⟩ := database
  cases node with
  | none => exact .nodeMade rfl
  | some node => exact .nodeKept rfl

/-- The check lets pass what the cluster admits, and says what it does not. -/
theorem checkNodeBucket_cases (settings : ClusterSettings) (bucket : Option Int) :
    (settings.Admits bucket ∧ settings.checkNodeBucket bucket = .ok ()) ∨
      ∃ number, bucket = some number ∧ ¬ (0 ≤ number ∧ number ≤ settings.maxBucket) ∧
        settings.checkNodeBucket bucket = refuse (.bucketOutOfRange number settings.maxBucket) := by
  cases bucket with
  | none => exact .inl ⟨nofun, rfl⟩
  | some number =>
    have checked : settings.checkNodeBucket (some number) =
        (checkBucket number settings.maxBucket >>= fun _ => pure ()) := rfl
    by_cases within : 0 ≤ number ∧ number ≤ settings.maxBucket
    · have passed : checkBucket number settings.maxBucket = .ok number := if_pos within
      refine .inl ⟨?_, by rw [checked, passed]; rfl⟩
      rintro _ ⟨⟩
      exact within
    · have refused : checkBucket number settings.maxBucket = refuse (.bucketOutOfRange number settings.maxBucket) :=
        if_neg within
      exact .inr ⟨number, rfl, within, by rw [checked, refused]; rfl⟩

theorem setBucket_effect (bucket : Option Int) (database : ClusterDatabase) :
    Effect database (.setBucket bucket) ((Call.setBucket bucket).perform database).1
      ((Call.setBucket bucket).perform database).2 := by
  obtain ⟨settings, wallClock, node, shards⟩ := database
  simp only [Call.perform, store, setBucket, StateT.run_bind, StateT.run_get, pure_bind]
  rcases checkNodeBucket_cases settings bucket with ⟨admitted, passed⟩ | ⟨number, rfl, outside, refused⟩
  · rw [passed]
    cases node with
    | none => exact .bucketEarly admitted rfl
    | some node => exact .bucketSet admitted rfl
  · rw [refused]
    exact .bucketRefused outside

theorem bootstrapShards_effect (nodes : List String) (source : RandomSource) (database : ClusterDatabase) :
    Effect database (.bootstrapShards nodes source) ((Call.bootstrapShards nodes source).perform database).1
      ((Call.bootstrapShards nodes source).perform database).2 := by
  cases nodes with
  | nil => exact .nobody
  | cons node rest =>
    have assigns := assignShards_assigns (List.cons_ne_nil node rest) (allShards database.settings.shardCount) source
    exact .filled (List.cons_ne_nil node rest) (fills_of_assigns assigns database.shards)

theorem perform_effect (call : Call) (database : ClusterDatabase) :
    Effect database call (call.perform database).1 (call.perform database).2 := by
  cases call with
  | bootstrapNode source => exact bootstrapNode_effect source database
  | readNode => exact .nodeRead
  | setBucket bucket => exact setBucket_effect bucket database
  | bootstrapShards nodes source => exact bootstrapShards_effect nodes source database
  | putShard record => exact .shardPut
  | readShards => exact .shardsRead
  | elapse wallClock => exact .elapsed

/-- A call that was made, and on what. -/
structure Entry where
  call : Call
  before : ClusterDatabase

namespace Entry

def answer (entry : Entry) : Answer := (entry.call.perform entry.before).1

def after (entry : Entry) : ClusterDatabase := (entry.call.perform entry.before).2

theorem effect (entry : Entry) : Effect entry.before entry.call entry.answer entry.after :=
  perform_effect entry.call entry.before

end Entry

/-- The calls that lead from one cluster to another, last ones first. -/
inductive History (start : ClusterDatabase) : List Entry → ClusterDatabase → Prop
  | start : History start [] start
  | call {past : List Entry} {database : ClusterDatabase} (earlier : History start past database) (call : Call) :
      History start (⟨call, database⟩ :: past) (Entry.after ⟨call, database⟩)

/-- The history of given calls, last ones first. -/
def replay (start : ClusterDatabase) : List Call → List Entry × ClusterDatabase
  | [] => ([], start)
  | call :: earlier =>
    let (past, database) := replay start earlier
    (⟨call, database⟩ :: past, Entry.after ⟨call, database⟩)

theorem replay_history (start : ClusterDatabase) (calls : List Call) :
    History start (replay start calls).1 (replay start calls).2 := by
  induction calls with
  | nil => exact .start
  | cons call earlier ih => exact .call ih call

end ClusterDatabase

end LeaseQueue
