import LeaseQueue.Proofs.Memory.Batch
import LeaseQueue.Proofs.Queue.Report
import LeaseQueue.Proofs.Sql.Effects
import LeaseQueue.Sql.Store

/-!
What a batched send reports and what stays of it. Each message is inserted by a statement of its own, a chunk of them
leaves all of its messages or none, and the result names the messages that were left.
-/
namespace LeaseQueue.Sql

/-- The statement inserts the message. -/
def Inserts (queue : Queue) (shard : Int) (message : NewMessage) (statement : Statement) : Prop :=
  ∃ delay, checkMillis (queue.delayOf message) = .ok delay ∧ statement = insertStatement queue shard message delay

/-- The message of a post was inserted, and its id is the one that came back. -/
def Wrote (shard : Int) (post : Post) (work : Work) : Prop :=
  Inserts post.queue shard post.message work.statement ∧ ∃ row localId, work.found.rows.head? = some row ∧
    row.required MessageColumn.id.text Cell.bigInt? = .ok localId ∧ post.id = ⟨localId, shard⟩

/-- What came of inserting messages one after the other: the statements are those of the first of them, and of all with
their ids if it succeeded. -/
structure Attempted (queue : Queue) (shard : Int) (messages : List NewMessage) (outcome : Except Error (List MessageId))
    (asked : List Statement) (work : List Work) : Prop where
  tried : ∃ tried, tried <+: messages ∧ List.Forall₂ (Inserts queue shard) tried asked
  inserted : ∀ ids, outcome = .ok ids → List.Forall₂ (Inserts queue shard) messages asked
  written : ∀ ids, outcome = .ok ids → messages.length = ids.length ∧
    List.Forall₂ (Wrote shard) (queue.posts messages (ids.map some)) work

namespace Action

variable {queue : Queue} {shard : Int}

theorem insertMessages_leaves (messages : List NewMessage) :
    Leaves (insertMessages queue shard messages) (Attempted queue shard messages) := by
  induction messages with
  | nil =>
    refine .pure ⟨⟨[], List.nil_prefix, .nil⟩, fun _ _ => .nil, fun ids same => ?_⟩
    cases same
    exact ⟨rfl, .nil⟩
  | cons message rest ih =>
    unfold insertMessages
    cases delayed : checkMillis (queue.delayOf message) with
    | error failure => exact .pure ⟨⟨[], List.nil_prefix, .nil⟩, nofun, nofun⟩
    | ok delay =>
      have inserts : Inserts queue shard message (insertStatement queue shard message delay) := ⟨delay, delayed, rfl⟩
      have begun : [message] <+: message :: rest := List.prefix_append [message] rest
      refine (fetchOne_leaves _ _).bind ?_
      rintro fetched _ done ⟨rfl, found⟩
      cases read : fetched.bind fun row => row.required MessageColumn.id.text Cell.bigInt? with
      | error failure => exact .pure ⟨⟨[message], begun, .cons inserts .nil⟩, nofun, nofun⟩
      | ok id =>
        cases fetched with
        | error failure => cases read
        | ok row =>
          obtain ⟨result, first, rfl⟩ := found row rfl
          refine ih.bind ?_
          intro outcome asked work others
          obtain ⟨tried, short, each⟩ := others.tried
          rw [← List.append_nil asked] at each
          refine .pure ⟨⟨message :: tried, (List.prefix_cons_inj message).mpr short, .cons inserts each⟩, ?_, ?_⟩
          · intro ids same
            cases outcome with
            | error failure => cases same
            | ok later =>
              have all := others.inserted later rfl
              rw [← List.append_nil asked] at all
              exact .cons inserts all
          · intro ids same
            cases outcome with
            | error failure => cases same
            | ok later =>
              cases same
              obtain ⟨long, written⟩ := others.written later rfl
              rw [← List.append_nil work] at written
              exact ⟨congrArg (· + 1) long, .cons ⟨inserts, row, id, first, read, rfl⟩ written⟩

end Action

theorem attempted_nothing (queue : Queue) (shard : Int) (messages : List NewMessage) (failure : Error)
    (work : List Work) : Attempted queue shard messages (.error failure) [] work :=
  ⟨⟨[], List.nil_prefix, .nil⟩, nofun, nofun⟩

theorem Attempted.lost {queue : Queue} {shard : Int} {messages : List NewMessage}
    {outcome : Except Error (List MessageId)} {asked : List Statement} {work : List Work}
    (attempted : Attempted queue shard messages outcome asked work) (failure : Error) :
    Attempted queue shard messages (.error failure) asked [] :=
  ⟨attempted.tried, nofun, nofun⟩

/-- What a batched send amounts to: the work that stays is that of the messages with an id, and the failures are those
of the others. -/
structure Reported (queue : Queue) (shard : Int) (messages : List NewMessage) (options : SendOptions)
    (result : SendResult) (asked : List Statement) (work : List Work) : Prop where
  length : messages.length = result.ids.length
  stored : List.Forall₂ (Wrote shard) (queue.posts messages result.ids) work
  consistent : result.Consistent options.batchSize messages.length
  whole : options.partialInsert = .prohibited → none ∉ result.ids ∨ ∀ id ∈ result.ids, id = none
  cut : options.partialInsert = .untilFirstFailure → ∃ (kept : List MessageId) (rest : Nat),
    result.ids = kept.map some ++ List.replicate rest none ∧ ∃ tried,
      tried <+: messages.take (kept.length + options.batchSize) ∧ List.Forall₂ (Inserts queue shard) tried asked

/-- A batched send between two chunks. -/
structure Placing (queue : Queue) (shard : Int) (messages : List NewMessage) (options : SendOptions)
    (past : List NewMessage) (result : SendResult) (asked : List Statement) (work : List Work) : Prop where
  length : past.length = result.ids.length
  stored : List.Forall₂ (Wrote shard) (queue.posts past result.ids) work
  consistent : result.Consistent options.batchSize messages.length
  unbroken : options.partialInsert ≠ .asManyAsPossible →
    none ∉ result.ids ∧ List.Forall₂ (Inserts queue shard) past asked

namespace Action

variable {queue : Queue} {shard : Int}

theorem insertChunk_leaves (chunk : List NewMessage) :
    Leaves (insertChunk queue shard chunk) (Attempted queue shard chunk) := by
  unfold insertChunk
  split
  · exact .pure (attempted_nothing ..)
  · exact insertMessages_leaves chunk

theorem writeChunk_leaves (mode : PartialInsert) (chunk : List NewMessage) :
    Leaves (writeChunk queue shard mode chunk) fun outcome asked work =>
      Attempted queue shard chunk outcome asked work ∧
        (mode ≠ .prohibited → ∀ failure, outcome = .error failure → work = []) := by
  have saved : Leaves (inSavepoint "begin send chunk failed" "commit send chunk failed" (insertChunk queue shard chunk))
      fun outcome asked work => Attempted queue shard chunk outcome asked work ∧
        (mode ≠ .prohibited → ∀ failure, outcome = .error failure → work = []) :=
    .savepoint _ _ (insertChunk_leaves chunk) (fun _ _ _ attempted => ⟨attempted, nofun⟩)
      fun _ failure _ _ attempted => ⟨attempted.lost failure, fun _ _ _ => rfl⟩
  cases mode with
  | prohibited =>
    exact (insertChunk_leaves chunk).weaken fun _ _ _ attempted => ⟨attempted, fun other => absurd rfl other⟩
  | untilFirstFailure | asManyAsPossible => exact saved

end Action

/-- A send that undoes everything reports everything as failed. -/
theorem reported_nothing {queue : Queue} {shard : Int} {messages : List NewMessage} {options : SendOptions}
    (mode : options.partialInsert = .prohibited) (filled : messages ≠ []) (failure : Error) (asked : List Statement) :
    Reported queue shard messages options (.allFailed messages.length failure) asked [] := by
  refine ⟨?_, ?_, ?_, fun _ => .inr ?_, fun other => absurd (mode.symm.trans other) nofun⟩
  · simp [SendResult.allFailed, SendResult.addFailed, SendResult.empty]
  · rw [show (SendResult.allFailed messages.length failure).ids = List.replicate messages.length none from rfl,
      queue.posts_none]
    exact .nil
  · exact (SendResult.consistent_empty _ _).addFailed (List.length_pos_iff.mpr filled) failure (.inl (Nat.dvd_zero _))
      (.inr (Nat.zero_add _))
  · exact fun id member => List.eq_of_mem_replicate member

namespace Placing

variable {queue : Queue} {shard : Int} {messages past chunk : List NewMessage} {options : SendOptions}
variable {result : SendResult} {before asked : List Statement} {done work : List Work}

theorem sent (placing : Placing queue shard messages options past result before done) {ids : List MessageId}
    (attempted : Attempted queue shard chunk (.ok ids) asked work) :
    Placing queue shard messages options (past ++ chunk) (result.addSent ids) (before ++ asked) (done ++ work) := by
  obtain ⟨long, written⟩ := attempted.written ids rfl
  refine ⟨?_, ?_, placing.consistent.addSent ids, fun mode => ?_⟩
  · simp [SendResult.addSent, placing.length, long]
  · unfold SendResult.addSent
    rw [queue.posts_append placing.length]
    exact List.rel_append placing.stored written
  · obtain ⟨all, inserts⟩ := placing.unbroken mode
    exact ⟨by simp [SendResult.addSent, all], List.rel_append inserts (attempted.inserted ids rfl)⟩

/-- Messages that failed leave nothing behind the others. -/
theorem stored_addFailed (placing : Placing queue shard messages options past result before done)
    (chunk : List NewMessage) (count : Nat) (failure : Error) :
    List.Forall₂ (Wrote shard) (queue.posts (past ++ chunk) (result.addFailed count failure).ids) done := by
  unfold SendResult.addFailed
  rw [queue.posts_append placing.length, queue.posts_none, List.append_nil]
  exact placing.stored

/-- Before the first failure every message has an id. -/
theorem sent_length (placing : Placing queue shard messages options past result before done)
    (all : none ∉ result.ids) : past.length = result.sent.length := by
  rw [placing.length, congrArg List.length (SendResult.ids_sent all), List.length_map]

theorem failed (placing : Placing queue shard messages options past result before done)
    (mode : options.partialInsert = .asManyAsPossible) (nonempty : 0 < chunk.length)
    (start : ChunkEdge options.batchSize messages.length past.length)
    (stop : ChunkEdge options.batchSize messages.length (past ++ chunk).length) (failure : Error)
    (asked : List Statement) :
    Placing queue shard messages options (past ++ chunk) (result.addFailed chunk.length failure) (before ++ asked)
      done := by
  rw [List.length_append] at stop
  rw [placing.length] at start stop
  refine ⟨?_, placing.stored_addFailed chunk _ failure, placing.consistent.addFailed nonempty failure start stop,
    fun other => absurd mode other⟩
  simp [SendResult.addFailed, placing.length]

theorem reported (placing : Placing queue shard messages options messages result before done) :
    Reported queue shard messages options result before done := by
  refine ⟨placing.length, placing.stored, placing.consistent, fun mode => .inl (placing.unbroken (by simp [mode])).1,
    fun mode => ?_⟩
  obtain ⟨all, inserts⟩ := placing.unbroken (by simp [mode])
  have long : messages.length ≤ result.sent.length + options.batchSize :=
    Nat.le_add_right_of_le (Nat.le_of_eq (placing.sent_length all))
  have whole : messages.take (result.sent.length + options.batchSize) = messages := List.take_of_length_le long
  exact ⟨result.sent, 0, by simpa using result.ids_sent all, messages, whole.symm ▸ List.prefix_rfl, inserts⟩

/-- A send that stops at a failing chunk leaves what was written before it. -/
theorem stopped (placing : Placing queue shard messages options past result before done)
    (mode : options.partialInsert = .untilFirstFailure) {rest : List NewMessage} (split : messages = past ++ rest)
    (filled : rest ≠ []) (aligned : options.batchSize ∣ past.length) {failure : Error}
    (attempted : Attempted queue shard (rest.take options.batchSize) (.error failure) asked work) :
    Reported queue shard messages options (result.addFailed (messages.length - result.ids.length) failure)
      (before ++ asked) done := by
  obtain ⟨all, inserts⟩ := placing.unbroken (by simp [mode])
  obtain ⟨tried, short, each⟩ := attempted.tried
  have left : messages.length - result.ids.length = rest.length := by
    rw [split, List.length_append, placing.length, Nat.add_sub_cancel_left]
  have total : result.ids.length + rest.length = messages.length := by
    rw [split, List.length_append, placing.length]
  rw [left]
  refine ⟨?_, ?_, ?_, fun other => absurd (mode.symm.trans other) nofun, fun _ => ?_⟩
  · simp [SendResult.addFailed, total]
  · exact split ▸ placing.stored_addFailed rest _ failure
  · exact placing.consistent.addFailed (List.length_pos_iff.mpr filled) failure (.inl (placing.length ▸ aligned))
      (.inr total)
  · refine ⟨result.sent, rest.length, congrArg (· ++ _) (SendResult.ids_sent all), past ++ tried, ?_,
      List.rel_append inserts each⟩
    rw [split, ← placing.sent_length all, List.take_length_add_append]
    exact (List.prefix_append_right_inj past).mpr short

end Placing

namespace Action

variable {queue : Queue} {shard : Int}

/-- A chunk is placed on top of the ones before it, as long as the sending goes on. -/
theorem placeChunks_leaves {messages : List NewMessage} {options : SendOptions} (positive : options.batchSize ≠ 0)
    {past rest : List NewMessage} {result : SendResult} {before : List Statement} {done : List Work}
    (split : messages = past ++ rest) (edge : options.batchSize ∣ past.length ∨ rest = [])
    (placing : Placing queue shard messages options past result before done) :
    Leaves (placeChunks options.partialInsert messages.length (writeChunk queue shard options.partialInsert) result
      (chunks options.batchSize rest)) fun placement asked work =>
        Reported queue shard messages options placement.result (before ++ asked)
          (if placement.keep then done ++ work else []) := by
  induction rest using chunks.induct options.batchSize generalizing past result before done with
  | case1 rest ended =>
    obtain rfl := ended.resolve_left positive
    rw [List.append_nil] at split
    subst split
    unfold chunks
    rw [if_pos ended]
    refine .pure ?_
    simpa using placing.reported
  | case2 rest more ih =>
    have filled : rest ≠ [] := fun empty => more (.inr empty)
    have aligned : options.batchSize ∣ past.length := edge.resolve_right filled
    generalize chunked : rest.take options.batchSize = chunk at *
    have next : messages = (past ++ chunk) ++ rest.drop options.batchSize := by
      rw [split, ← chunked, List.append_assoc, List.take_append_drop]
    have long : chunk.length = min options.batchSize rest.length := by rw [← chunked, List.length_take]
    have onward : options.batchSize ∣ (past ++ chunk).length ∨ rest.drop options.batchSize = [] := by
      rw [List.length_append, long]
      rcases Nat.le_total options.batchSize rest.length with full | short
      · rw [Nat.min_eq_left full]
        exact .inl (Nat.dvd_add aligned (Nat.dvd_refl _))
      · exact .inr (List.drop_eq_nil_of_le short)
    unfold chunks
    rw [if_neg more, chunked]
    unfold placeChunks
    refine (writeChunk_leaves _ chunk).bind ?_
    rintro outcome asked work ⟨attempted, undone⟩
    cases outcome with
    | ok ids =>
      refine (ih next onward (placing.sent attempted)).weaken fun placement later more reported => ?_
      simpa only [List.append_assoc] using reported
    | error failure =>
      cases mode : options.partialInsert with
      | prohibited => exact .pure (reported_nothing mode (by simp [split, filled]) failure _)
      | untilFirstFailure =>
        obtain rfl := undone (by simp [mode]) failure rfl
        subst chunked
        refine .pure ?_
        simpa using placing.stopped mode split filled aligned attempted
      | asManyAsPossible =>
        obtain rfl := undone (by simp [mode]) failure rfl
        rw [mode] at ih
        have nonempty : 0 < chunk.length := by
          have := List.length_pos_iff.mpr filled
          omega
        have stop : ChunkEdge options.batchSize messages.length (past ++ chunk).length :=
          onward.imp_right fun empty => by rw [next, empty, List.append_nil]
        refine (ih next onward (placing.failed mode nonempty (.inl aligned) stop failure asked)).weaken
          fun placement later more reported => ?_
        rw [← List.append_assoc]
        exact reported

end Action

/-! A send that keeps all messages or none has no use for savepoints. -/

namespace Action

variable {queue : Queue} {shard : Int} {messages : List NewMessage} {exchanges : Exchanges}

theorem insertMessages_within : (insertMessages queue shard messages).Within (· ≠ .begin) := by
  induction messages with
  | nil => trivial
  | cons message rest ih =>
    unfold insertMessages
    cases checkMillis (queue.delayOf message) with
    | error failure => trivial
    | ok delay =>
      refine Program.within_bind (Program.within_bind (execute_within nofun _) fun _ => trivial) fun row => ?_
      cases row.bind fun row => row.required MessageColumn.id.text Cell.bigInt? with
      | error failure => trivial
      | ok id => exact Program.within_bind ih fun _ => trivial

theorem insertChunk_within (chunk : List NewMessage) : (insertChunk queue shard chunk).Within (· ≠ .begin) := by
  unfold insertChunk
  split
  · trivial
  · exact insertMessages_within

theorem placeChunks_within {allowed : Request → Prop} {mode : PartialInsert}
    {write : List NewMessage → Action (Except Error (List MessageId))} {pieces : List (List NewMessage)}
    (within : ∀ chunk ∈ pieces, (write chunk).Within allowed) (total : Nat) (result : SendResult) :
    (placeChunks mode total write result pieces).Within allowed := by
  induction pieces generalizing result with
  | nil => trivial
  | cons chunk rest ih =>
    have later := ih fun other member => within other (List.mem_cons_of_mem _ member)
    refine Program.within_bind (within chunk List.mem_cons_self) fun outcome => ?_
    cases outcome with
    | ok ids => exact later _
    | error failure =>
      cases mode with
      | prohibited | untilFirstFailure => trivial
      | asManyAsPossible => exact later _

theorem placeChunks_steady {options : SendOptions} (mode : options.partialInsert = .prohibited) {total : Nat}
    {result : SendResult} {pieces : List (List NewMessage)} {placement : Placement}
    (ends : (placeChunks options.partialInsert total (writeChunk queue shard options.partialInsert) result
      pieces).Ends exchanges placement) : Steady exchanges := by
  rw [mode] at ends
  exact steady_of_requests ((placeChunks_within (fun chunk _ => insertChunk_within chunk) _ _).ends ends)

end Action

/-- One chunk of a batch with all that was exchanged over it. -/
structure ChunkRun where
  chunk : List NewMessage
  exchanges : Exchanges
  outcome : Except Error (List MessageId)

namespace ChunkRun

/-- What a result says once the chunk is over, if the others may stay without it. -/
def report (result : SendResult) (run : ChunkRun) : SendResult :=
  match run.outcome with
  | .ok ids => result.addSent ids
  | .error failure => result.addFailed run.chunk.length failure

end ChunkRun

/-- The chunks of a batch in order, each with a run of its own. -/
def ChunkRuns (queue : Queue) (shard : Int) (messages : List NewMessage) (options : SendOptions)
    (runs : List ChunkRun) : Prop :=
  runs.map ChunkRun.chunk = chunks options.batchSize messages ∧
    ∀ run ∈ runs, (Action.writeChunk queue shard options.partialInsert run.chunk).Ends run.exchanges run.outcome

/-- The runs of the chunks within the transaction of the send. -/
def wholeSend (runs : List ChunkRun) : Exchanges :=
  ⟨.begin, true⟩ :: (runs.flatMap ChunkRun.exchanges ++ [⟨.commit, true⟩])

namespace Action

variable {queue : Queue} {shard : Int} {messages : List NewMessage} {options : SendOptions} {exchanges : Exchanges}
variable {answer : Except Error SendResult}

/-- Where every chunk stands for itself, any runs of the chunks make up a run of them all, and there are no others. -/
theorem placeChunks_apart {write : List NewMessage → Action (Except Error (List MessageId))} {total : Nat}
    {result : SendResult} {pieces : List (List NewMessage)} {placement : Placement} :
    (placeChunks .asManyAsPossible total write result pieces).Ends exchanges placement ↔
      ∃ runs : List ChunkRun, (runs.map ChunkRun.chunk = pieces ∧
          ∀ run ∈ runs, (write run.chunk).Ends run.exchanges run.outcome) ∧
        exchanges = runs.flatMap ChunkRun.exchanges ∧ placement = ⟨runs.foldl ChunkRun.report result, true⟩ := by
  induction pieces generalizing result exchanges with
  | nil =>
    constructor
    · rintro ⟨rfl, rfl⟩
      exact ⟨[], ⟨rfl, nofun⟩, rfl, rfl⟩
    · rintro ⟨runs, ⟨none, _⟩, rfl, rfl⟩
      obtain rfl := List.map_eq_nil_iff.mp none
      exact ⟨rfl, rfl⟩
  | cons piece rest ih =>
    unfold placeChunks
    rw [Program.ends_bind]
    constructor
    · rintro ⟨outcome, first, later, rfl, wrote, ends⟩
      obtain ⟨runs, ⟨same, each⟩, rfl, rfl⟩ : ∃ runs : List ChunkRun, (runs.map ChunkRun.chunk = rest ∧
          ∀ run ∈ runs, (write run.chunk).Ends run.exchanges run.outcome) ∧ later = runs.flatMap ChunkRun.exchanges ∧
            placement = ⟨runs.foldl ChunkRun.report (ChunkRun.report result ⟨piece, first, outcome⟩), true⟩ := by
        cases outcome <;> exact ih.mp ends
      exact ⟨⟨piece, first, outcome⟩ :: runs,
        ⟨congrArg (piece :: ·) same, List.forall_mem_cons.mpr ⟨wrote, each⟩⟩, rfl, rfl⟩
    · rintro ⟨_ | ⟨⟨chunk, first, outcome⟩, runs⟩, ⟨same, each⟩, rfl, rfl⟩
      · cases same
      · obtain ⟨rfl, others⟩ := List.cons_eq_cons.mp same
        obtain ⟨wrote, later⟩ := List.forall_mem_cons.mp each
        refine ⟨outcome, first, _, rfl, wrote, ?_⟩
        cases outcome <;> exact ih.mpr ⟨runs, ⟨others, later⟩, rfl, rfl⟩

/-- A batched send is refused, or has nothing to do, or cannot be begun, or places its chunks between its begin and its
end. -/
theorem sendBatched_ends (ends : (sendBatched queue shard messages options).Ends exchanges answer) :
    (exchanges = [] ∧ (∃ failure, answer = .error failure)) ∨
    (exchanges = [] ∧ messages = [] ∧ answer = .ok .empty) ∨
    (exchanges = [⟨.begin, false⟩] ∧ ∃ failure, answer = .error failure) ∨
    (messages ≠ [] ∧ options.batchSize ≠ 0 ∧ ∃ placed placement ending,
      exchanges = ⟨.begin, true⟩ :: (placed ++ [ending]) ∧
      (placeChunks options.partialInsert messages.length (writeChunk queue shard options.partialInsert) .empty
        (chunks options.batchSize messages)).Ends placed placement ∧
      if placement.keep then ∃ committed : Bool, ending = ⟨.commit, committed⟩ ∧
        answer = if committed then .ok placement.result else failed "commit send failed"
      else (∃ undone, ending = ⟨.rollback, undone⟩) ∧ answer = .ok placement.result) := by
  unfold sendBatched at ends
  cases valid : options.validate with
  | error failure =>
    rw [valid] at ends
    obtain ⟨rfl, rfl⟩ := ends
    exact .inl ⟨rfl, failure, rfl⟩
  | ok _ =>
    rw [valid] at ends
    dsimp only at ends
    split at ends
    · rename_i empty
      obtain ⟨rfl, rfl⟩ := ends
      exact .inr (.inl ⟨rfl, List.isEmpty_iff.mp empty, rfl⟩)
    · rename_i filled
      obtain ⟨begun, later, rfl, rest⟩ := Program.ends_ask_bind.mp ends
      cases begun with
      | false =>
        obtain ⟨rfl, rfl⟩ := rest
        exact .inr (.inr (.inl ⟨rfl, _, rfl⟩))
      | true =>
        obtain ⟨placement, placed, closing, rfl, ran, rest⟩ := Program.ends_bind.mp rest
        refine .inr (.inr (.inr ⟨fun empty => filled (List.isEmpty_iff.mpr empty), SendOptions.validate_ok valid,
          placed, placement, ?_⟩))
        split at rest
        · rename_i kept
          obtain ⟨committed, _, rfl, closed⟩ := Program.ends_ask_bind.mp rest
          refine ⟨_, ?_, ran, (if_pos kept).mpr ⟨committed, rfl, ?_⟩⟩ <;>
            cases committed <;> obtain ⟨rfl, rfl⟩ := closed <;> rfl
        · rename_i dropped
          obtain ⟨undone, _, rfl, rfl, rfl⟩ := Program.ends_ask_bind.mp rest
          exact ⟨_, rfl, ran, (if_neg dropped).mpr ⟨⟨undone, rfl⟩, rfl⟩⟩

/-- Any runs of the chunks make up a run of a send in which every chunk stands for itself. -/
theorem sendBatched_wholeSend (mode : options.partialInsert = .asManyAsPossible) (positive : options.batchSize ≠ 0)
    (filled : messages ≠ []) {runs : List ChunkRun} (each : ChunkRuns queue shard messages options runs) :
    (sendBatched queue shard messages options).Ends (wholeSend runs) (.ok (runs.foldl ChunkRun.report .empty)) := by
  have valid : options.validate = .ok () := by
    unfold SendOptions.validate require
    rw [if_pos (decide_eq_true positive)]
  have placed : (placeChunks options.partialInsert messages.length (writeChunk queue shard options.partialInsert) .empty
      (chunks options.batchSize messages)).Ends (runs.flatMap ChunkRun.exchanges)
      ⟨runs.foldl ChunkRun.report .empty, true⟩ := by
    unfold ChunkRuns at each
    rw [mode] at each ⊢
    exact placeChunks_apart.mpr ⟨runs, each, rfl, rfl⟩
  unfold sendBatched
  rw [valid]
  dsimp only
  rw [if_neg (mt List.isEmpty_iff.mp filled)]
  refine Program.ends_ask_bind.mpr ⟨true, _, rfl, Program.ends_bind.mpr ⟨_, _, _, rfl, placed, ?_⟩⟩
  exact ⟨true, [], rfl, rfl, rfl⟩

/-- Placing begins with nothing placed. -/
theorem placing_empty : Placing queue shard messages options [] .empty [] [] :=
  ⟨rfl, .nil, SendResult.consistent_empty _ _, fun _ => ⟨nofun, .nil⟩⟩

/-- A batched send that could begin all savepoints of its chunks reports exactly what stays of it, and if it fails
nothing stays. Where its chunks stand for themselves, whatever comes of one of them, every run of the others goes with
it. No savepoint is refused here, so what `Ledger.refuse` says of the transaction around it does not matter. -/
theorem sendBatched_reports_what_stays (ends : (sendBatched queue shard messages options).Ends exchanges answer)
    (steady : options.partialInsert ≠ .prohibited → Steady exchanges.tail) :
    match answer with
    | .error _ => (Ledger.empty.after exchanges).durable = []
    | .ok result =>
      Reported queue shard messages options result (asked exchanges) (Ledger.empty.after exchanges).durable ∧
      (options.partialInsert = .asManyAsPossible → messages ≠ [] →
        (∃ runs, ChunkRuns queue shard messages options runs ∧ exchanges = wholeSend runs ∧
          result = runs.foldl ChunkRun.report .empty) ∧
        ∀ runs, ChunkRuns queue shard messages options runs → (sendBatched queue shard messages options).Ends
          (wholeSend runs) (.ok (runs.foldl ChunkRun.report .empty))) := by
  rcases sendBatched_ends ends with ⟨rfl, failure, rfl⟩ | ⟨rfl, rfl, rfl⟩ | ⟨rfl, failure, rfl⟩ |
    ⟨filled, positive, placed, placement, ending, rfl, ran, closed⟩
  · rfl
  · exact ⟨placing_empty.reported, fun _ filled => absurd rfl filled⟩
  · rfl
  · have calm : Steady placed := by
      by_cases mode : options.partialInsert = .prohibited
      · exact placeChunks_steady mode ran
      · exact fun exchange member => steady mode exchange (by simp [member])
    obtain ⟨work, adds, reported⟩ :=
      placeChunks_leaves positive rfl (.inl (Nat.dvd_zero _)) placing_empty placed placement ran calm
    have sent : asked (⟨.begin, true⟩ :: (placed ++ [ending])) = asked placed ++ asked [ending] := asked_append _ _
    split at closed
    · rename_i kept
      obtain ⟨committed, rfl, rfl⟩ := closed
      cases committed with
      | false => exact congrArg Ledger.durable (adds.undone (fun _ => rfl) .empty)
      | true =>
        have stays : (Ledger.empty.after (⟨.begin, true⟩ :: (placed ++ [⟨.commit, true⟩]))).durable = work :=
          congrArg Ledger.durable (adds.committed .empty)
        refine ⟨?_, fun mode _ => ⟨?_, fun runs => sendBatched_wholeSend mode positive filled⟩⟩
        · rw [sent, stays]
          rw [if_pos kept] at reported
          exact (List.append_nil (asked placed)).symm ▸ reported
        · rw [mode] at ran
          obtain ⟨runs, each, rfl, rfl⟩ := placeChunks_apart.mp ran
          exact ⟨runs, by unfold ChunkRuns; rwa [mode], rfl, rfl⟩
    · rename_i dropped
      obtain ⟨⟨undone, rfl⟩, rfl⟩ := closed
      have stays : (Ledger.empty.after (⟨.begin, true⟩ :: (placed ++ [⟨.rollback, undone⟩]))).durable = [] :=
        congrArg Ledger.durable (adds.undone (fun _ => rfl) .empty)
      refine ⟨?_, fun mode _ => ?_⟩
      · rw [sent, stays]
        rw [if_neg dropped] at reported
        exact (List.append_nil (asked placed)).symm ▸ reported
      · rw [mode] at ran
        obtain ⟨runs, each, rfl, rfl⟩ := placeChunks_apart.mp ran
        exact absurd rfl dropped

end Action

def notes : Queue := .named ⟨"notes", by decide +kernel⟩

def note : NewMessage := ⟨.empty, ∅, none, none⟩

/-- Two messages in chunks of their own. -/
def twoChunks : Action (Except Error SendResult) := Action.sendBatched notes 1 [note, note] ⟨1, .asManyAsPossible⟩

/-- The row that comes back from an insert. -/
def idRow : ResultSet := ⟨[[("id", .value (.bigInt 7))]], 1⟩

/-- The second of two inserts fails, and the first message stays. -/
theorem first_chunk_stays :
    let connection : Connection := { Connection.fresh with replies := [some idRow, none] }
    Steady (twoChunks.told Connection.answer connection).tail ∧
      (Ledger.empty.after (twoChunks.told Connection.answer connection)).durable.length = 1 := by
  intro connection
  have steady : Steady (twoChunks.told Connection.answer connection).tail := by decide +kernel
  have result : (twoChunks.run Connection.answer connection).1 =
      .ok ⟨[some ⟨7, 1⟩, none], [⟨1, 2, .persistence (.failed "insert message failed")⟩]⟩ := by decide +kernel
  have ends := result ▸ twoChunks.told_ends Connection.answer connection
  obtain ⟨reported, _⟩ := Action.sendBatched_reports_what_stays ends fun _ => steady
  exact ⟨steady, reported.stored.length_eq.symm⟩

/-- The savepoint of the first chunk fails, and then the rollback that its transaction is given up with. The second
message is not even sent. That the transaction is given up, and its rollback owed ahead of the next statement, is assumed
of the package: see `begin_depth`, `begin_owed` and `query_sent` in `Connection.KeepsTransactions`. -/
theorem refused_savepoint_fails_next :
    let failing : Connection := { Connection.fresh with replies := [some idRow], failing := ["SAVEPOINT", "ROLLBACK"] }
    let refusal : Error := .persistence (.failed "begin send chunk failed")
    (Connection.perform twoChunks failing).1 = .ok ⟨[none, none], [⟨0, 1, refusal⟩, ⟨1, 2, refusal⟩]⟩ ∧
      (Connection.perform twoChunks failing).2.replies.length = 1 := by
  decide +kernel

/-- Everything is done but for the transaction that is begun third. -/
def thirdRefused : (request : Request) → StateM Nat request.Answer
  | .begin => fun count => (count != 2, count + 1)
  | .query _ => pure (some idRow)
  | .commit | .rollback | .takeLocal _ => pure true
  | .leave | .freeLocal _ | .arm _ | .disarm | .close => pure ()

/-- The savepoint of the second chunk fails. The first message is gone with its transaction, by `Ledger.refuse`, but its
id is reported. -/
theorem refused_savepoint_loses_ids :
    (twoChunks.run thirdRefused 0).1 =
        .ok ⟨[some ⟨7, 1⟩, none], [⟨1, 2, .persistence (.failed "begin send chunk failed")⟩]⟩ ∧
      (Ledger.empty.after (twoChunks.told thirdRefused 0)).durable.length = 0 := by
  decide +kernel

end LeaseQueue.Sql
