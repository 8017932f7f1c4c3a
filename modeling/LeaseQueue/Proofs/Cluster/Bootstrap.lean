import LeaseQueue.Proofs.Cluster.Calls

/-!
Bootstraps of a cluster in memory. Whoever calls and in whatever order, the node keeps its identity, and a shard that
has a row keeps one through all calls that follow.
-/
namespace LeaseQueue.ClusterDatabase

/-- Whether the call bootstraps the node. -/
def Call.placesNode : Call → Bool
  | bootstrapNode _ => true
  | _ => false

/-- The bucket that a call with this answer set, if it did. -/
def bucketSet? : Call → Answer → Option (Option Int)
  | .setBucket bucket, .bucketSet (.ok ()) => some bucket
  | _, _ => none

/-- The bucket that was set last. -/
def lastBucket : List Entry → Option Int
  | [] => none
  | entry :: earlier => (bucketSet? entry.call entry.answer).getD (lastBucket earlier)

/-- Whether the call is a bootstrap that gave the shard its row. -/
def Entry.bootstraps (shard : Int) (entry : Entry) : Bool :=
  match entry.call with
  | .bootstrapShards _ _ => shard ∉ entry.before.shards && shard ∈ entry.after.shards
  | _ => false

/-- The number of rows for a shard. -/
def rowCount (database : ClusterDatabase) (shard : Int) : Nat :=
  database.shards.toList.countP fun row => row.2.shard = shard

theorem Entry.mem_of_bootstraps {shard : Int} {entry : Entry} (made : entry.bootstraps shard) :
    shard ∉ entry.before.shards ∧ shard ∈ entry.after.shards := by
  unfold bootstraps at made
  split at made
  · simpa using made
  · exact absurd made Bool.false_ne_true

/-- A call that goes as it should after the ones before it. -/
structure Entry.Lawful (settings : ClusterSettings) (earlier : List Entry) (entry : Entry) : Prop where
  /-- A bootstrap of the node answers the row that stands. -/
  node : ∀ source, entry.call = .bootstrapNode source → ∃ node, entry.answer = .node (.ok node) ∧
    entry.after = { entry.before with node := some node } ∧ ∀ old, entry.before.node = some old → node = old
  nodeRead : entry.call = .readNode → entry.answer = .found (.ok entry.before.node) ∧ entry.after = entry.before
  bucketRefused : ∀ number, entry.call = .setBucket (some number) → ¬ (0 ≤ number ∧ number ≤ settings.maxBucket) →
    entry.answer = .bucketSet (refuse (.bucketOutOfRange number settings.maxBucket)) ∧ entry.after = entry.before
  bucketEarly : ∀ bucket, entry.call = .setBucket bucket → settings.Admits bucket →
    earlier.any (·.call.placesNode) = false →
    entry.answer = .bucketSet (.error .nodeNotBootstrapped) ∧ entry.after = entry.before
  bucketSet : ∀ bucket, entry.call = .setBucket bucket → settings.Admits bucket →
    earlier.any (·.call.placesNode) = true →
    ∃ node, entry.before.node = some node ∧ entry.answer = .bucketSet (.ok ()) ∧
      entry.after = { entry.before with node := some { node with bucket := bucket } }
  filled : ∀ nodes source, entry.call = .bootstrapShards nodes source → nodes ≠ [] →
    ∃ added shards, entry.answer = .added (.ok added) ∧ entry.after = { entry.before with shards := shards } ∧
      Fills settings nodes entry.before.shards added shards
  nobody : ∀ source, entry.call = .bootstrapShards [] source →
    entry.answer = .added (refuse .noNodes) ∧ entry.after = entry.before
  shardPut : ∀ record, entry.call = .putShard record → entry.after = entry.before.putShard record
  shardsRead : entry.call = .readShards → entry.answer = .shards (.ok entry.before.shards) ∧ entry.after = entry.before

/-- A cluster after the calls of its past. -/
structure Bootstrapped (settings : ClusterSettings) (past : List Entry) (database : ClusterDatabase) : Prop where
  lawful : ∀ entry earlier, (entry :: earlier) <:+ past → entry.Lawful settings earlier
  placed : database.node.isSome = past.any (·.call.placesNode)
  /-- The row of the node keeps the identity that any call left it with. -/
  identity : ∀ entry ∈ past, ∀ node, entry.after.node = some node →
    ∃ now, database.node = some now ∧ now.serverId = node.serverId ∧ now.createdAt = node.createdAt
  bucket : ∀ node, database.node = some node → node.bucket = lastBucket past
  /-- After a bootstrap of the shards each has its one row. -/
  complete : ∀ entry ∈ past, ∀ nodes source, entry.call = .bootstrapShards nodes source → nodes ≠ [] →
    ∀ shard, 1 ≤ shard → shard ≤ settings.shardCount → database.rowCount shard = 1
  once : ∀ shard, past.countP (Entry.bootstraps shard) ≤ 1

/-- Every row stands under the number of its shard. -/
def Keyed (database : ClusterDatabase) : Prop :=
  ∀ (shard : Int) (record : ShardRecord), database.shards[shard]? = some record → record.shard = shard

theorem rowCount_of_mem {database : ClusterDatabase} (keyed : Keyed database) {shard : Int}
    (there : shard ∈ database.shards) : database.rowCount shard = 1 := by
  have number : ∀ row ∈ database.shards.toList, row.2.shard = row.1 := fun row member =>
    keyed row.1 row.2 (Std.ExtTreeMap.mem_toList_iff_getElem?_eq_some.mp member)
  calc database.rowCount shard
    _ = database.shards.toList.countP fun row => row.1 = shard :=
      List.countP_congr fun row member => by rw [number row member]
    _ = (database.shards.toList.map Prod.fst).count shard := by
      rw [List.count_eq_countP, List.countP_map]
      rfl
    _ = 1 := by
      rw [Std.ExtTreeMap.map_fst_toList_eq_keys, Std.ExtTreeMap.nodup_keys.count]
      exact if_pos (Std.ExtTreeMap.mem_keys.mpr there)

/-- What no call takes back. -/
structure Keeps (before after : ClusterDatabase) : Prop where
  settings : after.settings = before.settings
  rows : ∀ shard ∈ before.shards, shard ∈ after.shards
  identity : ∀ node, before.node = some node →
    ∃ now, after.node = some now ∧ now.serverId = node.serverId ∧ now.createdAt = node.createdAt

namespace Keeps

variable {before after first second third : ClusterDatabase}

theorem of_node (node : after.node = before.node) (settings : after.settings = before.settings)
    (rows : ∀ shard ∈ before.shards, shard ∈ after.shards) : Keeps before after :=
  ⟨settings, rows, fun row there => ⟨row, node.trans there, rfl, rfl⟩⟩

theorem refl (database : ClusterDatabase) : Keeps database database := of_node rfl rfl fun _ there => there

theorem trans (early : Keeps first second) (late : Keeps second third) :
    Keeps first third := by
  refine ⟨late.settings.trans early.settings, fun shard there => late.rows shard (early.rows shard there), ?_⟩
  intro node there
  obtain ⟨middle, held, sameId, sameTime⟩ := early.identity node there
  obtain ⟨now, holds, laterId, laterTime⟩ := late.identity middle held
  exact ⟨now, holds, laterId.trans sameId, laterTime.trans sameTime⟩

end Keeps

namespace Effect

variable {before after : ClusterDatabase} {call : Call} {answer : Answer}

theorem keeps (effect : Effect before call answer after) : Keeps before after := by
  cases effect with
  | nodeKept _ | nodeRead | bucketRefused _ | bucketEarly _ _ | nobody | shardsRead => exact .refl before
  | nodeMade absent => exact ⟨rfl, fun _ row => row, fun node there => by simp [absent] at there⟩
  | @bucketSet bucket node _ there =>
    refine ⟨rfl, fun _ row => row, fun other held => ?_⟩
    obtain rfl : node = other := Option.some.inj (there.symm.trans held)
    exact ⟨{ node with bucket := bucket }, rfl, rfl, rfl⟩
  | filled _ fills =>
    refine .of_node rfl rfl fun shard row => ?_
    have held := Std.ExtTreeMap.getElem?_eq_some_getElem row
    exact Std.ExtTreeMap.isSome_getElem?_iff_mem.mp (Option.isSome_of_eq_some (fills.kept _ _ held))
  | shardPut => exact .of_node rfl rfl fun _ row => Std.ExtTreeMap.mem_insert.mpr (.inr row)
  | elapsed => exact .of_node rfl rfl fun _ row => row

theorem keyed (effect : Effect before call answer after) (keyed : Keyed before) : Keyed after := by
  cases effect with
  | nodeKept _ | nodeMade _ | nodeRead | bucketRefused _ | bucketEarly _ _ | bucketSet _ _ | nobody | shardsRead
  | elapsed => exact keyed
  | filled _ fills => exact fills.keyed keyed
  | @shardPut placed =>
    intro shard record there
    unfold putShard at there
    rw [Std.ExtTreeMap.getElem?_insert] at there
    split at there
    · rename_i same
      obtain rfl : placed = record := Option.some.inj there
      exact Std.LawfulEqCmp.eq_of_compare same
    · exact keyed shard record there

theorem placed (effect : Effect before call answer after) :
    after.node.isSome = (call.placesNode || before.node.isSome) := by
  cases effect with
  | nodeKept there => exact congrArg Option.isSome there
  | bucketSet _ there => exact (congrArg Option.isSome there).symm
  | nodeMade _ | nodeRead | bucketRefused _ | bucketEarly _ _ | nobody | filled _ _ | shardPut | shardsRead
  | elapsed => rfl

theorem bucket (effect : Effect before call answer after) :
    after.node.bind NodeRecord.bucket = (bucketSet? call answer).getD (before.node.bind NodeRecord.bucket) := by
  cases effect with
  | nodeMade absent => exact (congrArg (Option.bind · NodeRecord.bucket) absent).symm
  | nodeKept _ | nodeRead | bucketRefused _ | bucketEarly _ _ | bucketSet _ _ | nobody | filled _ _ | shardPut
  | shardsRead | elapsed => rfl

theorem node {source : RandomSource} (effect : Effect before (.bootstrapNode source) answer after) :
    ∃ node, answer = .node (.ok node) ∧ after = { before with node := some node } ∧
      ∀ old, before.node = some old → node = old := by
  cases effect with
  | @nodeKept _ node there =>
    refine ⟨node, rfl, by rw [← there], fun old held => ?_⟩
    exact Option.some.inj (there.symm.trans held)
  | nodeMade absent => exact ⟨_, rfl, rfl, fun old held => by simp [absent] at held⟩

theorem bucketRefused_of_outside {number : Int} (effect : Effect before (.setBucket (some number)) answer after)
    (outside : ¬ (0 ≤ number ∧ number ≤ before.settings.maxBucket)) :
    answer = .bucketSet (refuse (.bucketOutOfRange number before.settings.maxBucket)) ∧ after = before := by
  cases effect with
  | bucketRefused _ => exact ⟨rfl, rfl⟩
  | bucketEarly admitted _ | bucketSet admitted _ => exact absurd (admitted number rfl) outside

theorem bucketEarly_of_absent {bucket : Option Int} (effect : Effect before (.setBucket bucket) answer after)
    (admitted : before.settings.Admits bucket) (absent : before.node = none) :
    answer = .bucketSet (.error .nodeNotBootstrapped) ∧ after = before := by
  cases effect with
  | bucketRefused outside => exact absurd (admitted _ rfl) outside
  | bucketEarly _ _ => exact ⟨rfl, rfl⟩
  | bucketSet _ there => simp [absent] at there

theorem bucketSet_of_some {bucket : Option Int} {node : NodeRecord}
    (effect : Effect before (.setBucket bucket) answer after) (admitted : before.settings.Admits bucket)
    (there : before.node = some node) :
    answer = .bucketSet (.ok ()) ∧ after = { before with node := some { node with bucket := bucket } } := by
  cases effect with
  | bucketRefused outside => exact absurd (admitted _ rfl) outside
  | bucketEarly _ absent => simp [absent] at there
  | bucketSet _ held =>
    obtain rfl := Option.some.inj (held.symm.trans there)
    exact ⟨rfl, rfl⟩

theorem filled_of_someone {nodes : List String} {source : RandomSource}
    (effect : Effect before (.bootstrapShards nodes source) answer after) (someone : nodes ≠ []) :
    ∃ added shards, answer = .added (.ok added) ∧ after = { before with shards := shards } ∧
      Fills before.settings nodes before.shards added shards := by
  cases effect with
  | nobody => exact absurd rfl someone
  | filled _ fills => exact ⟨_, _, rfl, rfl, fills⟩

end Effect

/-- Every call goes as it should, where the node has a row just when a call before bootstrapped it. -/
theorem Entry.lawful {settings : ClusterSettings} {earlier : List Entry} (entry : Entry)
    (configured : entry.before.settings = settings)
    (placed : entry.before.node.isSome = earlier.any (·.call.placesNode)) : entry.Lawful settings earlier := by
  subst configured
  refine ⟨?node, ?nodeRead, ?bucketRefused, ?bucketEarly, ?bucketSet, ?filled, ?nobody, ?shardPut, ?shardsRead⟩
  case node =>
    intro source asked
    exact (asked ▸ entry.effect).node
  case bucketRefused =>
    intro number asked outside
    exact (asked ▸ entry.effect).bucketRefused_of_outside outside
  case bucketEarly =>
    intro bucket asked admitted never
    have absent := Option.not_isSome_iff_eq_none.mp (Bool.eq_false_iff.mp (placed.trans never))
    exact (asked ▸ entry.effect).bucketEarly_of_absent admitted absent
  case bucketSet =>
    intro bucket asked admitted made
    obtain ⟨node, there⟩ := Option.isSome_iff_exists.mp (placed.trans made)
    exact ⟨node, there, (asked ▸ entry.effect).bucketSet_of_some admitted there⟩
  case filled =>
    intro nodes source asked someone
    exact (asked ▸ entry.effect).filled_of_someone someone
  all_goals obtain ⟨call, before⟩ := entry
  case nodeRead | shardsRead =>
    rintro rfl
    exact ⟨rfl, rfl⟩
  case nobody =>
    rintro source rfl
    exact ⟨rfl, rfl⟩
  case shardPut =>
    rintro record rfl
    rfl

theorem eq_of_ofSettings {settings : ClusterSettings} {wallClock : Instant} {start : ClusterDatabase}
    (opened : ofSettings settings wallClock = .ok start) : start = ⟨settings, wallClock, none, ∅⟩ := by
  unfold ofSettings at opened
  cases checked : settings.validate with
  | error failure =>
    rw [checked] at opened
    cases opened
  | ok _ =>
    rw [checked] at opened
    exact (Except.ok.inj opened).symm

namespace History

variable {start database : ClusterDatabase} {past : List Entry}

theorem of_suffix (history : History start past database) {entry : Entry} {earlier : List Entry}
    (suffix : (entry :: earlier) <:+ past) : History start earlier entry.before := by
  induction history with
  | start => exact absurd (List.suffix_nil.mp suffix) (List.cons_ne_nil _ _)
  | call history call ih =>
    rcases List.suffix_cons_iff.mp suffix with same | inner
    · obtain ⟨rfl, rfl⟩ := List.cons.inj same
      exact history
    · exact ih inner

theorem keeps (history : History start past database) : Keeps start database := by
  induction history with
  | start => exact .refl start
  | call _ call ih => exact ih.trans (Entry.effect ⟨call, _⟩).keeps

theorem keeps_of_mem (history : History start past database) {entry : Entry} (member : entry ∈ past) :
    Keeps entry.after database := by
  induction history with
  | start => cases member
  | call _ call ih =>
    rcases List.mem_cons.mp member with rfl | member
    · exact .refl _
    · exact (ih member).trans (Entry.effect ⟨call, _⟩).keeps

theorem configured (history : History start past database) {entry : Entry} (member : entry ∈ past) :
    entry.before.settings = start.settings := by
  obtain ⟨later, earlier, rfl⟩ := List.append_of_mem member
  exact (history.of_suffix (List.suffix_append later (entry :: earlier))).keeps.settings

theorem placed (history : History start past database) (absent : start.node = none) :
    database.node.isSome = past.any (·.call.placesNode) := by
  induction history with
  | start => rw [absent]; rfl
  | call _ call ih => rw [(Entry.effect _).placed, ih]; rfl

theorem bucket (history : History start past database) (absent : start.node = none) :
    database.node.bind NodeRecord.bucket = lastBucket past := by
  induction history with
  | start => rw [absent]; rfl
  | call _ call ih => rw [(Entry.effect _).bucket, ih]; rfl

theorem keyed (history : History start past database) (keyed : Keyed start) : Keyed database := by
  induction history with
  | start => exact keyed
  | call _ call ih => exact (Entry.effect _).keyed ih

/-- A shard that had its row from a bootstrap has one ever since, so no other bootstrap gives it one. -/
theorem once (history : History start past database) (shard : Int) : past.countP (Entry.bootstraps shard) ≤ 1 := by
  induction history with
  | start => exact Nat.zero_le 1
  | @call past database history call ih =>
    rw [List.countP_cons]
    split
    · rename_i made
      have absent := (Entry.mem_of_bootstraps made).1
      -- Rows stay, so a bootstrap before this one would have left the shard its row.
      have never : past.countP (Entry.bootstraps shard) = 0 := List.countP_eq_zero.mpr fun entry member bootstrapped =>
        absent ((history.keeps_of_mem member).rows shard (Entry.mem_of_bootstraps bootstrapped).2)
      exact Nat.le_of_eq (congrArg (· + 1) never)
    · exact ih

/-- The bootstrap invariant: whatever is called, in whatever order, every call goes as it should, the node keeps its
identity and the bucket it was given last, and every shard has one row since the first bootstrap of the shards. -/
theorem bootstrapped {settings : ClusterSettings} {wallClock : Instant}
    (opened : ofSettings settings wallClock = .ok start) (history : History start past database) :
    Bootstrapped settings past database := by
  obtain rfl : start = ⟨settings, wallClock, none, ∅⟩ := eq_of_ofSettings opened
  refine ⟨fun entry earlier suffix => ?lawful, history.placed rfl, fun entry member => ?identity, ?bucket, ?complete,
    history.once⟩
  case lawful =>
    have before := history.of_suffix suffix
    exact entry.lawful before.keeps.settings (before.placed rfl)
  case identity => exact (history.keeps_of_mem member).identity
  case bucket =>
    intro node there
    rw [← history.bucket rfl, there]
    rfl
  case complete =>
    intro entry member nodes source asked someone shard lower upper
    obtain ⟨added, shards, -, after, fills⟩ := (asked ▸ entry.effect).filled_of_someone someone
    have there := (history.keeps_of_mem member).rows shard (after ▸ fills.mem lower (history.configured member ▸ upper))
    exact rowCount_of_mem (history.keyed (by simp [Keyed])) there

end History

/-- A cluster of three shards. -/
def trio : ClusterDatabase := ⟨⟨7, 3, 100, 4⟩, 0, none, ∅⟩

/-- Calls in which a bucket comes too early, a shard is handed over and everything is bootstrapped twice, last ones
first. -/
def trioCalls : List Call :=
  [.bootstrapShards ["right"] (.ofSeed [] 5), .bootstrapNode (.ofSeed [] 4), .putShard ⟨2, "left", none, some "left"⟩,
    .setBucket (some 8), .setBucket (some 3), .bootstrapShards ["left", "right"] (.ofSeed [] 2),
    .bootstrapNode (.ofSeed [] 1), .bootstrapShards [] (.ofSeed [] 0), .setBucket (some 3)]

theorem trio_bootstrapped :
    ofSettings ⟨7, 3, 100, 4⟩ 0 = .ok trio ∧ History trio (replay trio trioCalls).1 (replay trio trioCalls).2 ∧
      Bootstrapped ⟨7, 3, 100, 4⟩ (replay trio trioCalls).1 (replay trio trioCalls).2 :=
  have opened : ofSettings ⟨7, 3, 100, 4⟩ 0 = .ok trio := rfl
  have history := replay_history trio trioCalls
  ⟨opened, history, history.bootstrapped opened⟩

end LeaseQueue.ClusterDatabase
