import LeaseQueue.Proofs.Memory.Attempts
import LeaseQueue.Proofs.Memory.Ledger

/-!
The books of a batched send. Which chunks of a batch are bad depends on their messages and the ids that are left. From
the list of the bad ones follow the result, the rows that come to the table, and the answer of an all-or-nothing send.
-/
namespace LeaseQueue

/-- A bad chunk, by its place in the batch. -/
structure BadChunk where
  index : Nat
  error : Error

/-- The bad chunks of a batch, from the chunk at a place on. Each chunk finds the sequence as the one before left it. -/
inductive BadChunks (queue : Queue) : IdSequence → Nat → List (List NewMessage) → List BadChunk → Prop
  | done {sequence : IdSequence} {index : Nat} : BadChunks queue sequence index [] []
  | good {sequence after : IdSequence} {index : Nat} {chunk : List NewMessage} {rest : List (List NewMessage)}
      {bad : List BadChunk} (attempt : Attempt queue sequence chunk none after)
      (others : BadChunks queue after (index + 1) rest bad) : BadChunks queue sequence index (chunk :: rest) bad
  | bad {sequence after : IdSequence} {index : Nat} {chunk : List NewMessage} {rest : List (List NewMessage)}
      {bad : List BadChunk} {error : Error} (attempt : Attempt queue sequence chunk (some error) after)
      (others : BadChunks queue after (index + 1) rest bad) :
      BadChunks queue sequence index (chunk :: rest) (⟨index, error⟩ :: bad)

/-- The sequence that is left when some chunks were attempted one after the other. -/
inductive Drains (queue : Queue) : IdSequence → List (List NewMessage) → IdSequence → Prop
  | done {sequence : IdSequence} : Drains queue sequence [] sequence
  | next {sequence after left : IdSequence} {chunk : List NewMessage} {rest : List (List NewMessage)}
      {error : Option Error} (attempt : Attempt queue sequence chunk error after)
      (others : Drains queue after rest left) : Drains queue sequence (chunk :: rest) left

namespace PartialInsert

/-- Whether a chunk is kept, given the bad ones. -/
def Keeps (mode : PartialInsert) (bad : List BadChunk) (index : Nat) : Prop :=
  match mode with
  | prohibited => bad = []
  | untilFirstFailure => ∀ chunk ∈ bad, index < chunk.index
  | asManyAsPossible => ∀ chunk ∈ bad, index ≠ chunk.index

/-- The ranges of messages that are reported as failed, given the bad chunks. -/
def ranges (mode : PartialInsert) (size total : Nat) (bad : List BadChunk) : List SendFailure :=
  match mode with
  | prohibited => (bad.take 1).map fun chunk => ⟨0, total, chunk.error⟩
  | untilFirstFailure => (bad.take 1).map fun chunk => ⟨chunk.index * size, total, chunk.error⟩
  | asManyAsPossible => bad.map fun chunk => ⟨chunk.index * size, min ((chunk.index + 1) * size) total, chunk.error⟩

end PartialInsert

/-- What a result has to be, given the bad chunks of a batch of so many messages. -/
structure SendResult.Follows (options : SendOptions) (total : Nat) (bad : List BadChunk) (result : SendResult) :
    Prop where
  length : result.ids.length = total
  /-- The messages of the chunks that are kept have ids, and no others. -/
  kept : ∀ position < total, result.ids[position]? ≠ some none ↔
    options.partialInsert.Keeps bad (position / options.batchSize)
  failures : result.failures = options.partialInsert.ranges options.batchSize total bad
  /-- The failed positions are those without an id, in order. -/
  failed : result.failedIndexes = (List.range total).filter fun position => result.ids[position]? = some none
  count : result.failedCount = result.ids.count none
  whole : result.sent.length + result.failedCount = total

/-- The books when the chunks before a place are done and so many messages are left. -/
structure Booked (mode : PartialInsert) (size total : Nat) (shard : Int) (index left : Nat) (result : SendResult) :
    Prop where
  long : result.ids.length + left = total
  aligned : left ≠ 0 → result.ids.length = index * size
  clean : mode = .prohibited → result.failures = []
  exact : result.Exact
  own : ∀ id, some id ∈ result.ids → id.shard = shard

/-- What a result comes to in the end, given the chunks among the remaining ones that are bad. -/
structure Completes (mode : PartialInsert) (size total : Nat) (shard : Int) (bad : List BadChunk)
    (result final : SendResult) : Prop where
  length : final.ids.length = total
  kept : ∀ position < total, final.ids[position]? ≠ some none ↔
    result.ids[position]? ≠ some none ∧ mode.Keeps bad (position / size)
  failures : final.failures = result.failures ++ mode.ranges size total bad
  exact : final.Exact
  own : ∀ id, some id ∈ final.ids → id.shard = shard

section

variable {queue : Queue} {mode : PartialInsert} {size total index left : Nat} {shard : Int} {bad : List BadChunk}
  {result final : SendResult} {ids : List MessageId} {error : Error}

theorem BadChunks.later {sequence : IdSequence} {pieces : List (List NewMessage)}
    (chunks : BadChunks queue sequence index pieces bad) : ∀ chunk ∈ bad, index ≤ chunk.index := by
  induction chunks with
  | done => exact nofun
  | good _ _ ih =>
    intro chunk member
    exact Nat.le_of_succ_le (ih chunk member)
  | bad _ _ ih =>
    intro chunk member
    rcases List.mem_cons.mp member with rfl | member
    · exact Nat.le_refl _
    · exact Nat.le_of_succ_le (ih chunk member)

/-- A chunk is listed exactly where it cannot be staged with the ids that the chunks before it leave. -/
theorem BadChunks.listed_iff {sequence : IdSequence} {pieces : List (List NewMessage)}
    (chunks : BadChunks queue sequence index pieces bad) {early late : List (List NewMessage)} {chunk : List NewMessage}
    (split : pieces = early ++ chunk :: late) :
    ∃ rest, Drains queue sequence early rest ∧
      ((∃ error, ⟨index + early.length, error⟩ ∈ bad) ↔ queue.CannotStage rest chunk) := by
  induction early generalizing sequence index pieces bad with
  | nil =>
    obtain rfl : pieces = chunk :: late := split
    cases chunks with
    | good attempt others =>
      -- The chunks that are listed lie behind this one.
      refine ⟨sequence, .done, iff_of_false ?_ fun bad => nomatch attempt.bad_iff.mpr bad⟩
      rintro ⟨error, listed⟩
      exact Nat.not_succ_le_self index (others.later _ listed)
    | bad attempt others =>
      exact ⟨sequence, .done, iff_of_true ⟨_, List.mem_cons_self⟩ (attempt.bad_iff.mp rfl)⟩
  | cons first early ih =>
    obtain rfl : pieces = first :: (early ++ chunk :: late) := split
    have place : index + (first :: early).length = index + 1 + early.length := by
      rw [List.length_cons]
      omega
    rw [place]
    cases chunks with
    | good attempt others =>
      obtain ⟨rest, drains, listed⟩ := ih others rfl
      exact ⟨rest, .next attempt drains, listed⟩
    | bad attempt others =>
      obtain ⟨rest, drains, listed⟩ := ih others rfl
      refine ⟨rest, .next attempt drains, Iff.trans ⟨?_, ?_⟩ listed⟩
      · rintro ⟨error, member⟩
        refine ⟨error, (List.mem_cons.mp member).resolve_left fun same => ?_⟩
        have equal : index + 1 + early.length = index := congrArg BadChunk.index same
        omega
      · rintro ⟨error, member⟩
        exact ⟨error, List.mem_cons_of_mem _ member⟩

theorem Booked.start (mode : PartialInsert) (size : Nat) (shard : Int) (total : Nat) :
    Booked mode size total shard 0 total .empty :=
  ⟨Nat.zero_add _, fun _ => (Nat.zero_mul _).symm, fun _ => rfl, SendResult.exact_empty, nofun⟩

theorem Booked.addSent (booked : Booked mode size total shard index left result)
    (count : ids.length = min size left) (own : ∀ id ∈ ids, id.shard = shard) :
    Booked mode size total shard (index + 1) (left - size) (result.addSent ids) := by
  have longer : (result.addSent ids).ids.length = result.ids.length + min size left := by
    rw [SendResult.addSent, List.length_append, List.length_map, count]
  have long := booked.long
  refine ⟨?_, fun more => ?_, booked.clean, booked.exact.addSent ids, fun id member => ?_⟩
  · omega
  · rw [longer, booked.aligned (by omega), Nat.succ_mul]
    omega
  · rcases List.mem_append.mp member with old | new
    · exact booked.own id old
    · obtain ⟨given, inside, same⟩ := List.mem_map.mp new
      cases same
      exact own id inside

theorem Booked.addFailed (booked : Booked mode size total shard index left result) (goesOn : mode ≠ .prohibited)
    (error : Error) :
    Booked mode size total shard (index + 1) (left - size) (result.addFailed (min size left) error) := by
  have longer : (result.addFailed (min size left) error).ids.length = result.ids.length + min size left := by
    rw [SendResult.addFailed, List.length_append, List.length_replicate]
  have long := booked.long
  refine ⟨?_, fun more => ?_, fun whole => absurd whole goesOn, booked.exact.addFailed _ error, fun id member => ?_⟩
  · omega
  · rw [longer, booked.aligned (by omega), Nat.succ_mul]
    omega
  · rcases List.mem_append.mp member with old | new
    · exact booked.own id old
    · cases List.eq_of_mem_replicate new

theorem Completes.done (booked : Booked mode size total shard index 0 result) :
    Completes mode size total shard [] result result := by
  refine ⟨booked.long, fun position _ => ?_, ?_, booked.exact, booked.own⟩
  · cases mode <;> simp [PartialInsert.Keeps]
  · cases mode <;> simp [PartialInsert.ranges]

theorem Completes.sent (others : Completes mode size total shard bad (result.addSent ids) final) :
    Completes mode size total shard bad result final := by
  refine ⟨others.length, fun position within => ?_, others.failures, others.exact, others.own⟩
  rw [others.kept position within, ne_eq, SendResult.missing_addSent]

theorem Completes.prohibited (booked : Booked .prohibited size total shard index left result) (error : Error)
    (bad : List BadChunk) :
    Completes .prohibited size total shard (⟨index, error⟩ :: bad) result (.allFailed total error) := by
  refine ⟨?_, fun position within => ?_, ?_, SendResult.exact_empty.addFailed total error, fun id member => ?_⟩
  · simp [SendResult.allFailed, SendResult.addFailed, SendResult.empty]
  · have missing : (SendResult.allFailed total error).ids[position]? = some none := by
      rw [SendResult.allFailed, SendResult.missing_addFailed]
      exact .inr ⟨Nat.zero_le _, by simpa [SendResult.empty] using within⟩
    exact iff_of_false (fun kept => kept missing) (fun kept => List.cons_ne_nil _ _ kept.2)
  · rw [booked.clean rfl]
    simp [SendResult.allFailed, SendResult.addFailed, SendResult.empty, PartialInsert.ranges]
  · cases List.eq_of_mem_replicate (List.mem_append.mp member |>.resolve_left List.not_mem_nil)

theorem Completes.stopped (booked : Booked .untilFirstFailure size total shard index left result) (more : left ≠ 0)
    (positive : 0 < size) (error : Error) (later : ∀ chunk ∈ bad, index < chunk.index) :
    Completes .untilFirstFailure size total shard (⟨index, error⟩ :: bad) result
      (result.addFailed (total - result.ids.length) error) := by
  have long := booked.long
  have start := booked.aligned more
  refine ⟨?_, fun position within => ?_, ?_, booked.exact.addFailed _ error, fun id member => ?_⟩
  · rw [SendResult.addFailed, List.length_append, List.length_replicate]
    omega
  · rw [ne_eq, SendResult.missing_addFailed, not_or]
    refine and_congr_right fun _ => ?_
    have before : position / size < index ↔ position < result.ids.length := by
      rw [Nat.div_lt_iff_lt_mul positive, start]
    constructor
    · intro apart chunk member
      have early : position / size < index := before.mpr (by omega)
      rcases List.mem_cons.mp member with rfl | member
      · exact early
      · exact Nat.lt_trans early (later chunk member)
    · intro keeps
      have early := before.mp (keeps _ List.mem_cons_self)
      omega
  · simp only [SendResult.addFailed, PartialInsert.ranges, List.take_succ_cons, List.take_zero, List.map_cons,
      List.map_nil, ← start]
    congr 3
    omega
  · rcases List.mem_append.mp member with old | new
    · exact booked.own id old
    · cases List.eq_of_mem_replicate new

theorem Completes.skipped (booked : Booked .asManyAsPossible size total shard index left result) (more : left ≠ 0)
    (positive : 0 < size)
    (others : Completes .asManyAsPossible size total shard bad (result.addFailed (min size left) error) final) :
    Completes .asManyAsPossible size total shard (⟨index, error⟩ :: bad) result final := by
  have long := booked.long
  have start := booked.aligned more
  refine ⟨others.length, fun position within => ?_, ?_, others.exact, others.own⟩
  · have inside : position / size = index ↔
        result.ids.length ≤ position ∧ position < result.ids.length + min size left := by
      have lower : index ≤ position / size ↔ index * size ≤ position := Nat.le_div_iff_mul_le positive
      have upper : position / size < index + 1 ↔ position < (index + 1) * size := Nat.div_lt_iff_lt_mul positive
      rw [Nat.succ_mul] at upper
      omega
    have split : (∀ chunk ∈ ⟨index, error⟩ :: bad, position / size ≠ chunk.index) ↔ _ := List.forall_mem_cons
    rw [others.kept position within, ne_eq, SendResult.missing_addFailed, not_or, ← inside, and_assoc]
    exact and_congr_right fun _ => split.symm
  · have stop : result.ids.length + min size left = min ((index + 1) * size) total := by
      rw [Nat.succ_mul]
      omega
    rw [others.failures, SendResult.addFailed, stop, start, List.append_assoc]
    rfl

/-- The result of a whole batch. -/
theorem Completes.follows {options : SendOptions}
    (completes : Completes options.partialInsert options.batchSize total shard bad .empty result) :
    result.Follows options total bad := by
  have long := completes.length
  refine ⟨long, fun position within => ?_, completes.failures, ?_, completes.exact.failedCount, ?_⟩
  · rw [completes.kept position within]
    exact and_iff_right nofun
  · rw [← long]
    exact completes.exact
  · rw [← long]
    exact completes.exact.sent_add_failedCount

/-- Without a bad chunk every message has an id. -/
theorem SendResult.Follows.ids_eq {options : SendOptions} (follows : result.Follows options total []) :
    result.ids = result.sent.map some := by
  refine SendResult.ids_sent fun member => ?_
  obtain ⟨position, missing⟩ := List.mem_iff_getElem?.mp member
  obtain ⟨within, _⟩ := List.getElem?_eq_some_iff.mp missing
  refine (follows.kept position (follows.length ▸ within)).mpr ?_ missing
  cases options.partialInsert
  · rfl
  · exact nofun
  · exact nofun

/-- With a bad chunk an all-or-nothing batch has no id. -/
theorem SendResult.Follows.ids_none {options : SendOptions} (follows : result.Follows options total bad)
    (whole : options.partialInsert = .prohibited) (some : bad ≠ []) : result.ids = List.replicate total none := by
  refine List.ext_getElem? fun position => ?_
  rw [List.getElem?_replicate]
  split
  · rename_i within
    have lost := (follows.kept position within).not.mpr (by rw [whole]; exact some)
    exact not_not.mp lost
  · exact List.getElem?_eq_none (by rw [follows.length]; omega)

end

section

variable {queue : Queue} {shard : Int} {now : Instant} {messages : List NewMessage}

theorem exists_badChunks (sequence : IdSequence) (index : Nat) {pieces : List (List NewMessage)}
    (schedules : ∀ piece ∈ pieces, queue.Schedules now piece) :
    ∃ bad, BadChunks queue sequence index pieces bad := by
  induction pieces generalizing sequence index with
  | nil => exact ⟨[], .done⟩
  | cons piece rest ih =>
    obtain ⟨here, later⟩ := List.forall_mem_cons.mp schedules
    obtain ⟨_, after, error, _, attempt, _⟩ := Stage.chunk_attempt queue 0 here ⟨sequence, []⟩
    obtain ⟨bad, others⟩ := ih after.sequence (index + 1) later
    cases error with
    | none => exact ⟨bad, .good attempt others⟩
    | some error => exact ⟨_, .bad attempt others⟩

/-- The chunks of a batch are placed as the bad ones among them ask for. -/
theorem placeChunks_completes {mode : PartialInsert} {size total index : Nat} (positive : 0 < size)
    (schedules : queue.Schedules now messages) {result : SendResult} {staging : Staging}
    (booked : Booked mode size total shard index messages.length result) :
    ∃ bad placement after, BadChunks queue staging.sequence index (chunks size messages) bad ∧
      (placeChunks mode total (Stage.chunk queue shard now) result (chunks size messages)).run.run staging =
        (.ok placement, after) ∧
      Completes mode size total shard bad result placement.result := by
  fun_induction chunks size messages generalizing index result staging with
  | case1 messages done =>
    obtain rfl : messages = [] := done.resolve_left (Nat.ne_of_gt positive)
    exact ⟨[], ⟨result, true⟩, staging, .done, rfl, .done booked⟩
  | case2 messages more ih =>
    have first : queue.Schedules now (messages.take size) :=
      fun message member => schedules message (List.mem_of_mem_take member)
    have rest : queue.Schedules now (messages.drop size) :=
      fun message member => schedules message (List.mem_of_mem_drop member)
    have remaining : ∀ piece ∈ chunks size (messages.drop size), queue.Schedules now piece := by
      intro piece listed message member
      have inside := List.mem_flatten_of_mem listed member
      rw [flatten_chunks (Nat.ne_of_gt positive)] at inside
      exact rest message inside
    have filled : messages.length ≠ 0 := fun none => more (.inr (List.length_eq_zero_iff.mp none))
    obtain ⟨outcome, next, error, wrote, attempt, ended⟩ := Stage.chunk_attempt queue shard first staging
    rw [placeChunks, run_bind, wrote]
    dsimp only
    rcases ended with ⟨failure, rfl, rfl⟩ | ⟨ids, rfl, rfl, count, own⟩
    · cases mode with
      | prohibited =>
        obtain ⟨bad, others⟩ := exists_badChunks next.sequence (index + 1) remaining
        exact ⟨_, _, _, .bad attempt others, rfl, .prohibited booked failure bad⟩
      | untilFirstFailure =>
        obtain ⟨bad, others⟩ := exists_badChunks next.sequence (index + 1) remaining
        exact ⟨_, _, _, .bad attempt others, rfl, .stopped booked filled positive failure others.later⟩
      | asManyAsPossible =>
        have booked' := booked.addFailed (by decide) failure
        rw [← List.length_drop] at booked'
        obtain ⟨bad, placement, after, others, ran, completes⟩ := @ih (index + 1) rest _ next booked'
        rw [List.length_take]
        exact ⟨_, placement, after, .bad attempt others, ran, .skipped booked filled positive completes⟩
    · have booked' := booked.addSent (count.trans List.length_take) own
      rw [← List.length_drop] at booked'
      obtain ⟨bad, placement, after, others, ran, completes⟩ := @ih (index + 1) rest _ next booked'
      exact ⟨bad, placement, after, .good attempt others, ran, completes.sent⟩

/-- A batched send has a result, and it follows from the bad chunks of the batch. -/
theorem Run.sendBatched_follows {before : Database} {sequence : IdSequence} {options : SendOptions}
    (positive : 1 ≤ options.batchSize) (clock : before.now = .ok now)
    (found : sequenceOf queue before = .ok sequence) (schedules : queue.Schedules now messages) (shard : Int) :
    ∃ bad result after, BadChunks queue sequence 0 (chunks options.batchSize messages) bad ∧
      (sendBatched queue shard messages options).run.run before = (.ok (.ok result), after) ∧
      Completes options.partialInsert options.batchSize messages.length shard bad .empty result := by
  have valid : options.validate = .ok () := if_pos (decide_eq_true (Nat.ne_of_gt positive))
  obtain ⟨bad, placement, staging, chunked, placed, completes⟩ :=
    @placeChunks_completes queue shard now messages options.partialInsert options.batchSize messages.length 0 positive
      schedules .empty ⟨sequence, []⟩ (.start _ _ _ _)
  by_cases filled : messages = []
  · subst filled
    refine ⟨[], .empty, before, ?_, ?_, .done (.start _ _ _ _)⟩
    · unfold chunks
      rw [if_pos (.inr rfl)]
      exact .done
    · unfold sendBatched
      rw [valid]
      rfl
  · obtain ⟨after, ran⟩ := sendBatched_placed valid filled clock found placed
    exact ⟨bad, placement.result, after, chunked, ran, completes⟩

end

/-- A queue of a database that was opened can always be sent to. -/
theorem History.sequenceOf_ok {start database : Database} {past : List Entry} (opened : start.Opened)
    (history : History start past database) (queue : Queue) :
    ∃ sequence, Run.sequenceOf queue database = .ok sequence := by
  have identity : database.layout = start.layout ∧ database.bucket = start.bucket := by
    induction history with
    | start => exact ⟨rfl, rfl⟩
    | @call past database earlier engine drawn call ih =>
      obtain ⟨layout, bucket⟩ := Entry.identity ⟨engine, drawn, call, database⟩
      exact ⟨layout.trans ih.1, bucket.trans ih.2⟩
  have starts : ∃ sequence, IdSequence.start start.layout start.bucket = .ok sequence := by
    obtain ⟨_, _, layout, bucket, wallClock, _, made⟩ := opened
    unfold Database.ofIdentifiers at made
    unfold IdSequence.start
    cases valid : layout.encode bucket 0 with
    | error failure =>
      rw [valid] at made
      cases made
    | ok first =>
      rw [valid] at made
      cases made
      dsimp only
      rw [valid]
      exact ⟨_, rfl⟩
  unfold Run.sequenceOf
  cases database.table? queue.name with
  | some table => exact ⟨table.sequence, rfl⟩
  | none =>
    dsimp only
    rw [identity.1, identity.2]
    exact starts

/-- An all-or-nothing send answers with what the result of its batch comes to. -/
theorem Run.send_result (engine : SweepEngine) (draw : Bool) {queue : Queue} {shard : Int} {messages : List NewMessage}
    {before after : Database} {result : SendResult}
    (ran : (sendBatched queue shard messages .default).run.run before = (.ok (.ok result), after)) :
    ((store engine draw).send queue shard messages).run.run before = (.ok result.toExcept, after) := by
  unfold QueueStore.send
  rw [run_bind, show ((store engine draw).sendBatched queue shard messages .default).run.run before = _ from ran]
  rfl

/-- Whatever was done with a database, a batched send follows from its bad chunks, those that cannot be staged with the
ids left to them: the result, the rows that are added, and the answer if it is an all-or-nothing send. As long as fewer
than `2 ^ 64` ids were asked for, the rows come behind those of the table with ascending ids. -/
theorem History.batch_follows_chunks {start before : Database} {past : List Entry} (opened : start.Opened)
    (history : History start past before) {now : Instant} (clock : before.now = .ok now) {queue : Queue}
    {messages : List NewMessage} (schedules : queue.Schedules now messages) (shard : Int) {options : SendOptions}
    (positive : 1 ≤ options.batchSize) :
    ∃ sequence bad result after, Run.sequenceOf queue before = .ok sequence ∧
      BadChunks queue sequence 0 (chunks options.batchSize messages) bad ∧
      (∀ early chunk late, chunks options.batchSize messages = early ++ chunk :: late →
        ∃ rest, Drains queue sequence early rest ∧
          ((∃ error, ⟨early.length, error⟩ ∈ bad) ↔ queue.CannotStage rest chunk)) ∧
      (Run.sendBatched queue shard messages options).run.run before = (.ok (.ok result), after) ∧
      result.Follows options messages.length bad ∧
      (∀ address ∈ result.sent, address.shard = shard) ∧
      after.rows queue.table = Table.extend (before.rows queue.table) (queue.placed now messages result.ids) ∧
      (options.partialInsert = .prohibited → bad ≠ [] → after.rows queue.table = before.rows queue.table) ∧
      (requested queue.table past + Run.sendDrawn queue shard messages options before < 2 ^ 64 →
        after.rows queue.table = before.rows queue.table ++ queue.placed now messages result.ids ∧
          Table.Ascending (after.rows queue.table)) ∧
      (options = .default → ∀ engine draw, ∃ answer,
        ((Run.store engine draw).send queue shard messages).run.run before = (.ok answer, after) ∧
        (bad = [] → ∃ ids, answer = .ok ids ∧ result.ids = ids.map some) ∧
        ∀ first others, bad = first :: others → answer = .error first.error) := by
  obtain ⟨sequence, found⟩ := history.sequenceOf_ok opened queue
  obtain ⟨bad, result, after, chunked, ran, completes⟩ :=
    Run.sendBatched_follows positive clock found schedules shard
  have placed (later : Instant)
      (same : before.now = .ok later ∨ Run.posted queue messages (.ok (.ok result)) = []) :
      (Run.posted queue messages (.ok (.ok result))).map (fun post => post.stored later) =
        queue.placed now messages result.ids := by
    rcases same with same | nothing
    · cases clock.symm.trans same
      rfl
    · unfold Queue.placed
      rw [nothing, show queue.posts messages result.ids = [] from nothing]
      rfl
  have follows := completes.follows
  obtain ⟨⟨later, same, rows⟩, _⟩ := Run.sendBatched_extends ran
  rw [placed later same] at rows
  refine ⟨sequence, bad, result, after, found, chunked, fun early chunk late split => ?_, ran, follows,
    fun address member => ?_, rows, fun whole some => ?_, fun few => ?_, ?_⟩
  · simpa only [Nat.zero_add] using chunked.listed_iff split
  · obtain ⟨given, present, same⟩ := List.mem_filterMap.mp member
    obtain rfl : given = some address := same
    exact completes.own address present
  · rw [rows, follows.ids_none whole some, queue.placed_none, Table.extend_nil]
  · have fewer := Nat.lt_of_le_of_lt (Nat.le_add_right _ _) few
    obtain ⟨later, same, rows, ascending⟩ := (history.kept opened fewer).toReady.appends few ran
    rw [placed later same] at rows
    exact ⟨rows, ascending⟩
  · rintro rfl engine draw
    refine ⟨result.toExcept, Run.send_result engine draw ran, ?_, ?_⟩
    · rintro rfl
      refine ⟨result.sent, ?_, follows.ids_eq⟩
      rw [SendResult.toExcept, follows.failures]
      rfl
    · rintro first others rfl
      rw [SendResult.toExcept, follows.failures]
      rfl

/-- The second of three messages asks for no attempt. -/
def spoiledBatch : List NewMessage :=
  [⟨.empty, ∅, none, none⟩, ⟨.empty, ∅, none, some 0⟩, ⟨.empty, ∅, none, none⟩]

/-- The first two messages fail together, and the third one is kept. -/
theorem spoiled_batch_follows_chunks : Database.fresh.Opened ∧ (Queue.named .jobs).Schedules 0 spoiledBatch ∧
    ∃ sequence bad result after,
      BadChunks (.named .jobs) sequence 0 (chunks 2 spoiledBatch) bad ∧
      (Run.sendBatched (.named .jobs) 1 spoiledBatch ⟨2, .asManyAsPossible⟩).run.run .fresh =
        (.ok (.ok result), after) ∧
      result.Follows ⟨2, .asManyAsPossible⟩ 3 bad := by
  have schedules : (Queue.named .jobs).Schedules 0 spoiledBatch := by
    intro message member _
    refine ⟨0, ?_⟩
    simp only [spoiledBatch, List.mem_cons, List.not_mem_nil, or_false] at member
    rcases member with rfl | rfl | rfl <;> rfl
  have positive : 1 ≤ (⟨2, .asManyAsPossible⟩ : SendOptions).batchSize := by decide
  obtain ⟨sequence, bad, result, after, _, chunked, _, ran, follows, _⟩ :=
    History.batch_follows_chunks Database.fresh_opened .start rfl schedules 1 positive
  exact ⟨Database.fresh_opened, schedules, sequence, bad, result, after, chunked, ran, follows⟩

/-- The delay of the second message is a span, but leads out of the calendar. -/
def endlessBatch : List NewMessage :=
  [⟨.empty, ∅, none, none⟩, ⟨.empty, ∅, some 9000000000000000000000, none⟩]

/-- A due time outside the calendar is not reported. It stops the send, and the first message goes with it, though its
chunk was good. -/
theorem endless_delay_loses_batch :
    let sent := (Run.sendBatched (.named .jobs) 1 endlessBatch ⟨1, .asManyAsPossible⟩).run.run .fresh
    Attempt (.named .jobs) ⟨.default, 0, 1⟩ (endlessBatch.take 1) none ⟨.default, 0, 2⟩ ∧
      sent.1 = .error .instant ∧ sent.2.rows "q_jobs" = [] := by
  intro sent
  have accepted : (Queue.named .jobs).AcceptsAll (endlessBatch.take 1) := by
    intro message member fault refusal
    obtain rfl : message = ⟨.empty, ∅, none, none⟩ := List.mem_singleton.mp member
    rcases Queue.checkMessage_cases (.named .jobs) ⟨.empty, ∅, none, none⟩ with ⟨_, long⟩ | ⟨_, _, failed⟩
    · exact absurd (long fault refusal) (by decide)
    · cases failed
  have nothing : (sent.2.rows "q_jobs").isEmpty := by decide +kernel
  exact ⟨.staged accepted (by decide +kernel), by decide +kernel, List.isEmpty_iff.mp nothing⟩

end LeaseQueue
