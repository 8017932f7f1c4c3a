import LeaseQueue.Memory.Store
import LeaseQueue.Proofs.Identifier.Minting
import LeaseQueue.Proofs.Memory.Rows
import LeaseQueue.Proofs.Queue.Refusals
import LeaseQueue.Proofs.Running

/-!
What a batch stages. Each row takes the next identifier of the queue, so that the staged rows ascend above all
earlier ones, and each position of the result that names an identifier stands for the row of its message.
-/
namespace LeaseQueue

/-- A message that was sent to a queue, with the id it got. -/
structure Post where
  queue : Queue
  message : NewMessage
  id : MessageId

namespace Post

/-- The attempts that the message is sent with. -/
def attempts (post : Post) : Int := post.queue.attemptsOf post.message

/-- The message as it is stored when it is sent. -/
def stored (post : Post) (now : Instant) : StoredMessage :=
  let delay : Int := post.queue.delayOf post.message
  ⟨post.id.localId, post.id.shard, now, now + delay, none, post.attempts, post.message.payload, post.message.metadata⟩

end Post

/-- The messages of a batch that got an id. -/
def Queue.posts (queue : Queue) (messages : List NewMessage) (ids : List (Option MessageId)) : List Post :=
  (messages.zip ids).filterMap fun (message, id) => id.map (⟨queue, message, ·⟩)

theorem Queue.posts_append (queue : Queue) {first second : List NewMessage}
    {firstIds secondIds : List (Option MessageId)} (same : first.length = firstIds.length) :
    queue.posts (first ++ second) (firstIds ++ secondIds) =
      queue.posts first firstIds ++ queue.posts second secondIds := by
  unfold Queue.posts
  rw [List.zip_append same, List.filterMap_append]

theorem Queue.posts_none (queue : Queue) (messages : List NewMessage) (count : Nat) :
    queue.posts messages (List.replicate count none) = [] := by
  refine List.filterMap_eq_nil_iff.mpr fun (message, id) member => ?_
  obtain rfl := List.eq_of_mem_replicate (List.of_mem_zip member).2
  rfl

/-- The rows of those messages of a batch that got an id. -/
def Queue.placed (queue : Queue) (now : Instant) (messages : List NewMessage) (ids : List (Option MessageId)) :
    List StoredMessage :=
  (queue.posts messages ids).map fun post => post.stored now

theorem Queue.placed_append (queue : Queue) (now : Instant) {first second : List NewMessage}
    {firstIds secondIds : List (Option MessageId)} (same : first.length = firstIds.length) :
    queue.placed now (first ++ second) (firstIds ++ secondIds) =
      queue.placed now first firstIds ++ queue.placed now second secondIds := by
  unfold Queue.placed
  rw [queue.posts_append same, List.map_append]

theorem Queue.placed_none (queue : Queue) (now : Instant) (messages : List NewMessage) (count : Nat) :
    queue.placed now messages (List.replicate count none) = [] := by
  unfold Queue.placed
  rw [queue.posts_none]
  rfl

/-- Ascending ids among those that a bucket gives from one call to another. -/
structure Minted (layout : IdLayout) (bucket : Int) (first last : Nat) (ids : List Int) : Prop where
  ascending : ids.Pairwise (· < ·)
  above : ∀ id ∈ ids, layout.nth bucket first < id
  below : ∀ id ∈ ids, id ≤ layout.nth bucket last

namespace Minted

variable {layout : IdLayout} {bucket : Int} {first middle last : Nat} {ids others : List Int}

theorem nil (layout : IdLayout) (bucket : Int) (first last : Nat) : Minted layout bucket first last [] :=
  ⟨.nil, nofun, nofun⟩

theorem append (earlier : Minted layout bucket first middle ids) (later : Minted layout bucket middle last others)
    (lower : first ≤ middle) (upper : middle ≤ last) : Minted layout bucket first last (ids ++ others) := by
  refine ⟨List.pairwise_append.mpr ⟨earlier.ascending, later.ascending, fun id here other there => ?_⟩, ?_, ?_⟩
  · exact Int.lt_of_le_of_lt (earlier.below id here) (later.above other there)
  · intro id member
    rcases List.mem_append.mp member with here | there
    · exact earlier.above id here
    · exact Int.lt_of_le_of_lt (IdLayout.nth_le lower) (later.above id there)
  · intro id member
    rcases List.mem_append.mp member with here | there
    · exact Int.le_trans (earlier.below id here) (IdLayout.nth_le upper)
    · exact later.below id there

/-- The next id, before later ones. -/
theorem cons (later : Minted layout bucket (first + 1) last ids) (upper : first + 1 ≤ last) :
    Minted layout bucket first last (layout.nth bucket (first + 1) :: ids) := by
  have only : Minted layout bucket first (first + 1) [layout.nth bucket (first + 1)] := by
    refine ⟨List.pairwise_singleton _ _, ?_, ?_⟩
    · intro id member
      obtain rfl := List.mem_singleton.mp member
      exact IdLayout.nth_lt (Nat.lt_succ_self first)
    · intro id member
      obtain rfl := List.mem_singleton.mp member
      exact Int.le_refl _
  exact only.append later (Nat.le_succ first) upper

end Minted

namespace Stage

/-- How many ids the rows of a chunk take. -/
def rowsDrawn (now : Instant) : IdSequence → List (Duration × NewMessage) → Nat
  | _, [] => 0
  | sequence, (delay, _) :: rest =>
    match sequence.mint.1, now.add delay with
    | .ok _, .ok _ => rowsDrawn now sequence.mint.2 rest + 1
    | _, _ => 1

/-- How many ids a chunk takes; one that is refused takes none. -/
def chunkDrawn (queue : Queue) (now : Instant) (sequence : IdSequence) (messages : List NewMessage) : Nat :=
  match delays queue messages with
  | .error _ => 0
  | .ok checked => rowsDrawn now sequence checked

/-- How many ids the chunks of a batch take, until it stops. -/
def batchDrawn (mode : PartialInsert) (queue : Queue) (shard : Int) (now : Instant) :
    Staging → List (List NewMessage) → Nat
  | _, [] => 0
  | staging, messages :: rest =>
    chunkDrawn queue now staging.sequence messages +
      match (chunk queue shard now messages).run.run staging, mode with
      | (.ok (.ok _), after), _ | (.ok (.error _), after), .asManyAsPossible =>
        batchDrawn mode queue shard now after rest
      | _, _ => 0

theorem rows_cons (queue : Queue) (shard : Int) (now : Instant) (delay : Duration) (message : NewMessage)
    (rest : List (Duration × NewMessage)) (staging : Staging) :
    (rows queue shard now ((delay, message) :: rest)).run.run staging =
      let next : Staging := { staging with sequence := staging.sequence.mint.2 }
      match staging.sequence.mint.1, now.add delay with
      | .error failure, _ => (.ok (.error failure), next)
      | .ok _, .error overflow => (.error overflow, next)
      | .ok id, .ok due =>
        match (rows queue shard now rest).run.run next with
        | (.error overflow, last) => (.error overflow, last)
        | (.ok others, last) =>
          (.ok (others.map (⟨id, shard, now, due, none, queue.attemptsOf message, message.payload,
            message.metadata⟩ :: ·)), last) := by
  rw [rows]
  simp only [run_bind, run_get, run_modify]
  cases staging.sequence.mint.1 with
  | error failure => rfl
  | ok id =>
    cases now.add delay with
    | error overflow => rfl
    | ok due =>
      simp only [run_bind]
      rcases (rows queue shard now rest).run.run _ with ⟨_ | _, _⟩ <;> rfl

theorem checkSpan_ok {duration checked : Duration} (done : checkSpan duration = .ok checked) : checked = duration := by
  unfold checkSpan at done
  split at done
  · cases done; rfl
  · cases done

/-- The checks of a chunk stop at the first message that the queue has something against. -/
theorem delays_cases (queue : Queue) (messages : List NewMessage) :
    (queue.AcceptsAll messages ∧
      delays queue messages = .ok (messages.map fun message => (queue.delayOf message, message))) ∨
    ∃ early message late fault, messages = early ++ message :: late ∧ queue.AcceptsAll early ∧
      queue.Refusal message fault ∧ delays queue messages = .error (.invalidConfig fault) := by
  induction messages with
  | nil => exact .inl ⟨nofun, rfl⟩
  | cons message rest ih =>
    unfold delays
    rcases Queue.checkMessage_cases queue message with ⟨passed, apart⟩ | ⟨fault, refusal, failed⟩
    · rw [passed]
      by_cases short : queue.delayOf message ≤ longestSpan
      · have accepted : ∀ fault, ¬ queue.Refusal message fault :=
          fun fault refusal => Int.not_le.mpr (apart fault refusal) short
        rw [show checkSpan (queue.delayOf message) = .ok (queue.delayOf message) from if_pos short]
        rcases ih with ⟨all, checked⟩ | ⟨early, other, late, fault, split, all, refusal, failed⟩
        · rw [checked]
          exact .inl ⟨List.forall_mem_cons.mpr ⟨accepted, all⟩, rfl⟩
        · rw [failed]
          exact .inr ⟨message :: early, other, late, fault, congrArg (message :: ·) split,
            List.forall_mem_cons.mpr ⟨accepted, all⟩, refusal, rfl⟩
      · rw [show checkSpan (queue.delayOf message) = .error (.invalidConfig (.durationOutOfRange _)) from if_neg short]
        exact .inr ⟨[], message, rest, _, rfl, nofun, .delay (Int.not_le.mp short), rfl⟩
    · rw [failed]
      exact .inr ⟨[], message, rest, fault, rfl, nofun, refusal, rfl⟩

theorem delays_ok {queue : Queue} {messages : List NewMessage} {checked : List (Duration × NewMessage)}
    (done : delays queue messages = .ok checked) :
    checked = messages.map fun message => (queue.delayOf message, message) := by
  rcases delays_cases queue messages with ⟨_, passed⟩ | ⟨_, _, _, _, _, _, _, failed⟩
  · cases passed.symm.trans done
    rfl
  · cases failed.symm.trans done

/-! The rows of a batch are those of the messages with an id. -/

theorem rows_placed (queue : Queue) (shard : Int) (now : Instant) (messages : List NewMessage) {staging after : Staging}
    {outcome : Except Overflow (Except Error (List StoredMessage))}
    (ran : (rows queue shard now (messages.map fun message => (queue.delayOf message, message))).run.run staging =
      (outcome, after)) :
    after.rows = staging.rows ∧ ∀ staged, outcome = .ok (.ok staged) → messages.length = staged.length ∧
      staged = queue.placed now messages (staged.map fun row => some row.address) := by
  induction messages generalizing staging outcome after with
  | nil =>
    cases ran
    refine ⟨rfl, fun staged same => ?_⟩
    cases same
    exact ⟨rfl, rfl⟩
  | cons message rest ih =>
    rw [List.map_cons, rows_cons] at ran
    cases minted : staging.sequence.mint.1 with
    | error failure =>
      rw [minted] at ran
      cases ran
      exact ⟨rfl, nofun⟩
    | ok id =>
      cases due : now.add (queue.delayOf message) with
      | error overflow =>
        rw [minted, due] at ran
        cases ran
        exact ⟨rfl, nofun⟩
      | ok instant =>
        rw [minted, due] at ran
        dsimp only at ran
        rcases others : (rows queue shard now (rest.map fun message => (queue.delayOf message, message))).run.run
          { staging with sequence := staging.sequence.mint.2 } with ⟨overflow | failure | staged, last⟩ <;>
          rw [others] at ran <;> obtain ⟨same, given⟩ := ih others <;> cases ran
        · exact ⟨same, nofun⟩
        · exact ⟨same, nofun⟩
        · refine ⟨same, fun all equal => ?_⟩
          cases equal
          obtain ⟨count, placed⟩ := given staged rfl
          refine ⟨congrArg (· + 1) count, ?_⟩
          obtain rfl := Instant.add_ok due
          exact congrArg (_ :: ·) placed

/-- A chunk is staged whole or not at all. -/
theorem chunk_placed (queue : Queue) (shard : Int) (now : Instant) (messages : List NewMessage)
    {staging after : Staging} {outcome : Except Overflow (Except Error (List MessageId))}
    (ran : (chunk queue shard now messages).run.run staging = (outcome, after)) :
    ((∀ ids, outcome ≠ .ok (.ok ids)) → after.rows = staging.rows) ∧ ∀ ids, outcome = .ok (.ok ids) →
      messages.length = ids.length ∧ after.rows = staging.rows ++ queue.placed now messages (ids.map some) := by
  unfold chunk at ran
  cases checked : delays queue messages with
  | error failure =>
    rw [checked] at ran
    cases ran
    exact ⟨fun _ => rfl, nofun⟩
  | ok found =>
    obtain rfl := delays_ok checked
    rw [checked] at ran
    simp only [run_bind] at ran
    rcases written : (rows queue shard now (messages.map fun message => (queue.delayOf message, message))).run.run
      staging with ⟨overflow | failure | staged, last⟩ <;> rw [written] at ran <;>
      obtain ⟨same, given⟩ := rows_placed queue shard now messages written <;> cases ran
    · exact ⟨fun _ => same, nofun⟩
    · exact ⟨fun _ => same, nofun⟩
    · refine ⟨fun none => absurd rfl (none _), fun ids equal => ?_⟩
      cases equal
      obtain ⟨count, placed⟩ := given staged rfl
      refine ⟨by rw [List.length_map, count], ?_⟩
      rw [List.map_map]
      exact congrArg₂ (· ++ ·) same placed

end Stage

/-- The rows that stay of a batch are those of the messages with an id. -/
theorem placeChunks_placed (mode : PartialInsert) (queue : Queue) (shard : Int) (now : Instant)
    {messages past : List NewMessage} {pieces : List (List NewMessage)} (split : messages = past ++ pieces.flatten)
    {result : SendResult} (long : past.length = result.ids.length) {staging after : Staging}
    (placed : staging.rows = queue.placed now past result.ids) {placement : Placement}
    (ran : (placeChunks mode messages.length (Stage.chunk queue shard now) result pieces).run.run staging =
      (.ok placement, after)) :
    messages.length = placement.result.ids.length ∧
      (if placement.keep then after.rows else []) = queue.placed now messages placement.result.ids := by
  induction pieces generalizing past result staging with
  | nil =>
    cases ran
    obtain rfl : messages = past := by simpa using split
    exact ⟨long, placed⟩
  | cons piece rest ih =>
    rw [placeChunks, run_bind] at ran
    have next : messages = (past ++ piece) ++ rest.flatten := by simpa using split
    rcases written : (Stage.chunk queue shard now piece).run.run staging with ⟨overflow | failure | ids, last⟩ <;>
      rw [written] at ran <;> obtain ⟨bad, good⟩ := Stage.chunk_placed queue shard now piece written
    · cases ran
    · have same := bad nofun
      cases mode with
      | prohibited =>
        cases ran
        refine ⟨?_, (queue.placed_none now messages messages.length).symm⟩
        simp [SendResult.allFailed, SendResult.addFailed, SendResult.empty]
      | untilFirstFailure =>
        cases ran
        refine ⟨by simp [SendResult.addFailed, split, long], same.trans ?_⟩
        rw [placed, next, List.append_assoc]
        unfold SendResult.addFailed
        rw [queue.placed_append now long, queue.placed_none, List.append_nil]
      | asManyAsPossible =>
        refine ih next ?_ ?_ ran
        · simp [SendResult.addFailed, long]
        · unfold SendResult.addFailed
          rw [same, placed, queue.placed_append now long, queue.placed_none, List.append_nil]
    · obtain ⟨count, grown⟩ := good ids rfl
      refine ih next ?_ ?_ ran
      · simp [SendResult.addSent, long, count]
      · unfold SendResult.addSent
        rw [grown, placed, queue.placed_append now long]

/-! The ids of a batch are the next ones of the bucket. -/

namespace Stage

variable {layout : IdLayout} {bucket : Int} {calls : Nat}

/-- The ids that the rows of a chunk take are used up, and the rows have them in order. -/
theorem rows_minted (small : layout.Small) (queue : Queue) (shard : Int) (now : Instant)
    {messages : List (Duration × NewMessage)} {staging after : Staging}
    (sequence : staging.sequence = .afterCalls layout bucket calls) {drawn : Nat}
    (draws : rowsDrawn now staging.sequence messages = drawn) (few : calls + drawn < 2 ^ 64)
    {outcome : Except Overflow (Except Error (List StoredMessage))}
    (ran : (rows queue shard now messages).run.run staging = (outcome, after)) :
    after.sequence = .afterCalls layout bucket (calls + drawn) ∧ ∀ staged, outcome = .ok (.ok staged) →
      Minted layout bucket calls (calls + drawn) (staged.map StoredMessage.id) := by
  induction messages generalizing calls staging drawn outcome after with
  | nil =>
    cases ran
    obtain rfl : drawn = 0 := draws.symm
    refine ⟨sequence, fun staged same => ?_⟩
    cases same
    exact .nil _ _ _ _
  | cons first rest ih =>
    obtain ⟨delay, message⟩ := first
    have next : staging.sequence.mint.2 = .afterCalls layout bucket (calls + 1) := by
      rw [sequence, IdSequence.mint_next]
    rw [rows_cons] at ran
    unfold rowsDrawn at draws
    cases minted : staging.sequence.mint.1 with
    | error failure =>
      rw [minted] at ran draws
      cases ran
      subst draws
      exact ⟨next, nofun⟩
    | ok id =>
      cases due : now.add delay with
      | error overflow =>
        rw [minted, due] at ran draws
        cases ran
        subst draws
        exact ⟨next, nofun⟩
      | ok instant =>
        rw [minted, due] at ran draws
        dsimp only at ran draws
        obtain ⟨more, rfl⟩ : ∃ more, drawn = more + 1 := ⟨_, draws.symm⟩
        have total : calls + 1 + more = calls + (more + 1) := by omega
        rcases others : (rows queue shard now rest).run.run { staging with sequence := staging.sequence.mint.2 } with
          ⟨overflow | failure | staged, last⟩ <;> rw [others] at ran <;>
          obtain ⟨moved, good⟩ := ih next (Nat.succ.inj draws) (total ▸ few) others <;> rw [total] at moved good <;>
          cases ran
        · exact ⟨moved, nofun⟩
        · exact ⟨moved, nofun⟩
        · refine ⟨moved, fun all same => ?_⟩
          cases same
          have number : id = layout.nth bucket (calls + 1) := IdSequence.mint_ok small (by omega) (sequence ▸ minted)
          subst number
          exact .cons (good staged rfl) (by omega)

theorem chunk_minted (small : layout.Small) (queue : Queue) (shard : Int) (now : Instant) (messages : List NewMessage)
    {staging after : Staging} (sequence : staging.sequence = .afterCalls layout bucket calls) {drawn : Nat}
    (draws : chunkDrawn queue now staging.sequence messages = drawn) (few : calls + drawn < 2 ^ 64)
    {outcome : Except Overflow (Except Error (List MessageId))}
    (ran : (chunk queue shard now messages).run.run staging = (outcome, after)) :
    after.sequence = .afterCalls layout bucket (calls + drawn) ∧ ∃ fresh, after.rows = staging.rows ++ fresh ∧
      Minted layout bucket calls (calls + drawn) (fresh.map StoredMessage.id) := by
  unfold chunk at ran
  unfold chunkDrawn at draws
  cases checked : delays queue messages with
  | error failure =>
    rw [checked] at ran draws
    cases ran
    subst draws
    exact ⟨sequence, [], (List.append_nil _).symm, .nil _ _ _ _⟩
  | ok found =>
    obtain rfl := delays_ok checked
    rw [checked] at ran draws
    simp only [run_bind] at ran
    rcases written : (rows queue shard now (messages.map fun message => (queue.delayOf message, message))).run.run
      staging with ⟨overflow | failure | staged, last⟩ <;> rw [written] at ran <;>
      obtain ⟨moved, good⟩ := rows_minted small queue shard now sequence draws few written <;>
      obtain ⟨same, _⟩ := rows_placed queue shard now messages written <;> cases ran
    · exact ⟨moved, [], same.trans (List.append_nil _).symm, .nil _ _ _ _⟩
    · exact ⟨moved, [], same.trans (List.append_nil _).symm, .nil _ _ _ _⟩
    · exact ⟨moved, staged, congrArg (· ++ staged) same, good staged rfl⟩

end Stage

/-- However a batch ends, its ids are used up, and the staged rows have ids above all that were taken before. -/
theorem placeChunks_minted {layout : IdLayout} {bucket : Int} (small : layout.Small) (mode : PartialInsert)
    (queue : Queue) (shard : Int) (now : Instant) {total : Nat} {pieces : List (List NewMessage)} {result : SendResult}
    {staging after : Staging} {first calls : Nat} (lower : first ≤ calls)
    (sequence : staging.sequence = .afterCalls layout bucket calls)
    (minted : Minted layout bucket first calls (staging.rows.map StoredMessage.id)) {drawn : Nat}
    (draws : Stage.batchDrawn mode queue shard now staging pieces = drawn) (few : calls + drawn < 2 ^ 64)
    {outcome : Except Overflow Placement}
    (ran : (placeChunks mode total (Stage.chunk queue shard now) result pieces).run.run staging = (outcome, after)) :
    after.sequence = .afterCalls layout bucket (calls + drawn) ∧
      Minted layout bucket first (calls + drawn) (after.rows.map StoredMessage.id) := by
  induction pieces generalizing result staging calls drawn with
  | nil =>
    cases ran
    obtain rfl : drawn = 0 := draws.symm
    exact ⟨sequence, minted⟩
  | cons piece rest ih =>
    rw [placeChunks, run_bind] at ran
    unfold Stage.batchDrawn at draws
    rcases written : (Stage.chunk queue shard now piece).run.run staging with ⟨wrote, last⟩
    rw [written] at ran draws
    have taken := Stage.chunk_minted small queue shard now piece sequence rfl (by omega) written
    generalize Stage.chunkDrawn queue now staging.sequence piece = count at draws taken
    obtain ⟨moved, fresh, grown, new⟩ := taken
    have kept : Minted layout bucket first (calls + count) (last.rows.map StoredMessage.id) := by
      rw [grown, List.map_append]
      exact minted.append new lower (Nat.le_add_right _ _)
    have higher : first ≤ calls + count := Nat.le_trans lower (Nat.le_add_right _ _)
    rcases wrote with overflow | failure | ids
    · obtain rfl : count = drawn := draws
      cases ran
      exact ⟨moved, kept⟩
    · cases mode with
      | prohibited | untilFirstFailure =>
        obtain rfl : count = drawn := draws
        cases ran
        exact ⟨moved, kept⟩
      | asManyAsPossible =>
        obtain ⟨more, rfl⟩ : ∃ more, drawn = count + more := ⟨_, draws.symm⟩
        rw [← Nat.add_assoc] at few ⊢
        exact ih higher moved kept (Nat.add_left_cancel draws) few ran
    · obtain ⟨more, rfl⟩ : ∃ more, drawn = count + more := ⟨_, draws.symm⟩
      rw [← Nat.add_assoc] at few ⊢
      exact ih higher moved kept (Nat.add_left_cancel draws) few ran

end LeaseQueue
