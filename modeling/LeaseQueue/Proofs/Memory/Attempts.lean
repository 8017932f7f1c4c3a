import LeaseQueue.Proofs.Queue.Acceptance

/-!
What becomes of one chunk of a batch. It is refused for the first message that the queue has something against; else it
takes an id for each message, and where the ids run out, those that were taken are used up.
-/
namespace LeaseQueue

/-- Each message is due at a date, unless its delay is too long to begin with. -/
def Queue.Schedules (queue : Queue) (now : Instant) (messages : List NewMessage) : Prop :=
  ∀ message ∈ messages, queue.delayOf message ≤ longestSpan → ∃ due, now.add (queue.delayOf message) = .ok due

/-- How an attempt to stage a chunk ends, by its messages and the sequence of ids before it: with an error or without,
and with the sequence that is left. -/
inductive Attempt (queue : Queue) (sequence : IdSequence) (chunk : List NewMessage) : Option Error → IdSequence → Prop
  | refused {early late : List NewMessage} {message : NewMessage} {fault : ConfigFault}
      (split : chunk = early ++ message :: late) (accepted : queue.AcceptsAll early)
      (refusal : queue.Refusal message fault) : Attempt queue sequence chunk (some (.invalidConfig fault)) sequence
  | exhausted {taken : Nat} {failure : Error} (accepted : queue.AcceptsAll chunk) (inside : taken < chunk.length)
      (lasts : sequence.Lasts taken) (ended : (sequence.advance taken).mint.1 = .error failure) :
      Attempt queue sequence chunk (some failure) (sequence.advance (taken + 1))
  | staged (accepted : queue.AcceptsAll chunk) (lasts : sequence.Lasts chunk.length) :
      Attempt queue sequence chunk none (sequence.advance chunk.length)

/-- The queue has something against one of the messages of a chunk, or the ids run out inside it. -/
def Queue.CannotStage (queue : Queue) (sequence : IdSequence) (chunk : List NewMessage) : Prop :=
  (∃ message ∈ chunk, ∃ fault, queue.Refusal message fault) ∨ ¬sequence.Lasts chunk.length

/-- An attempt fails exactly where the chunk cannot be staged. -/
theorem Attempt.bad_iff {queue : Queue} {sequence after : IdSequence} {chunk : List NewMessage} {error : Option Error}
    (attempt : Attempt queue sequence chunk error after) : error.isSome ↔ queue.CannotStage sequence chunk := by
  cases attempt with
  | @refused early late message fault split accepted refusal =>
    have member : message ∈ chunk := by simp [split]
    exact iff_of_true rfl (.inl ⟨message, member, fault, refusal⟩)
  | @exhausted taken failure accepted inside lasts ended =>
    refine iff_of_true rfl (.inr fun all => ?_)
    have given := all taken inside
    rw [ended] at given
    cases given
  | staged accepted lasts =>
    refine iff_of_false nofun ?_
    rintro (⟨message, member, fault, refusal⟩ | out)
    · exact accepted message member fault refusal
    · exact out lasts

theorem IdSequence.Lasts.cons {sequence : IdSequence} {calls : Nat} (given : sequence.mint.1.isOk)
    (lasts : sequence.mint.2.Lasts calls) : sequence.Lasts (calls + 1) := by
  intro earlier less
  cases earlier with
  | zero => exact given
  | succ earlier => exact lasts earlier (Nat.lt_of_succ_lt_succ less)

namespace Stage

/-- Where no schedule leaves the calendar, each message takes an id, or the ids run out at one of them. -/
theorem rows_cases (queue : Queue) (shard : Int) {now : Instant} {messages : List NewMessage}
    (inside : ∀ message ∈ messages, ∃ due, now.add (queue.delayOf message) = .ok due) (staging : Staging) :
    let run := (rows queue shard now (messages.map fun message => (queue.delayOf message, message))).run.run staging
    (staging.sequence.Lasts messages.length ∧
      ∃ staged, staged.length = messages.length ∧ (∀ row ∈ staged, row.shard = shard) ∧
        run = (.ok (.ok staged), { staging with sequence := staging.sequence.advance messages.length })) ∨
    ∃ taken < messages.length, staging.sequence.Lasts taken ∧
      ∃ failure, (staging.sequence.advance taken).mint.1 = .error failure ∧
        run = (.ok (.error failure), { staging with sequence := staging.sequence.advance (taken + 1) }) := by
  induction messages generalizing staging with
  | nil => exact .inl ⟨nofun, [], rfl, nofun, rfl⟩
  | cons message rest ih =>
    obtain ⟨⟨due, added⟩, others⟩ := List.forall_mem_cons.mp inside
    rw [List.map_cons, rows_cons, added]
    cases minted : staging.sequence.mint.1 with
    | error failure => exact .inr ⟨0, Nat.succ_pos _, nofun, failure, minted, rfl⟩
    | ok id =>
      have given : staging.sequence.mint.1.isOk := by rw [minted]; rfl
      rcases ih others { staging with sequence := staging.sequence.mint.2 } with
        ⟨lasts, staged, long, placed, ran⟩ | ⟨taken, less, lasts, failure, ended, ran⟩
      · let row : StoredMessage :=
          ⟨id, shard, now, due, none, queue.attemptsOf message, message.payload, message.metadata⟩
        refine .inl ⟨.cons given lasts, row :: staged, congrArg (· + 1) long, ?_, ?_⟩
        · exact List.forall_mem_cons.mpr ⟨rfl, placed⟩
        · dsimp only
          rw [ran]
          rfl
      · refine .inr ⟨taken + 1, Nat.succ_lt_succ less, .cons given lasts, failure, ended, ?_⟩
        dsimp only
        rw [ran]
        rfl

/-- What is staged of a chunk depends on how the attempt ends. -/
theorem chunk_attempt (queue : Queue) (shard : Int) {now : Instant} {messages : List NewMessage}
    (schedules : queue.Schedules now messages) (staging : Staging) :
    ∃ outcome after error, (chunk queue shard now messages).run.run staging = (.ok outcome, after) ∧
      Attempt queue staging.sequence messages error after.sequence ∧
      ((∃ failure, error = some failure ∧ outcome = .error failure) ∨
        ∃ ids, error = none ∧ outcome = .ok ids ∧ ids.length = messages.length ∧ ∀ id ∈ ids, id.shard = shard) := by
  unfold chunk
  rcases delays_cases queue messages with
    ⟨accepted, checked⟩ | ⟨early, message, late, fault, split, accepted, refusal, failed⟩
  · rw [checked]
    have due : ∀ message ∈ messages, ∃ due, now.add (queue.delayOf message) = .ok due := by
      intro message member
      exact schedules message member (Int.not_lt.mp fun long => accepted message member _ (.delay long))
    simp only [run_bind]
    rcases rows_cases queue shard due staging with
      ⟨lasts, staged, long, placed, ran⟩ | ⟨taken, less, lasts, failure, ended, ran⟩
    · rw [ran]
      refine ⟨_, _, none, rfl, .staged accepted lasts, .inr ⟨_, rfl, rfl, ?_, ?_⟩⟩
      · rw [List.length_map, long]
      · intro id member
        obtain ⟨row, present, rfl⟩ := List.mem_map.mp member
        exact placed row present
    · rw [ran]
      exact ⟨_, _, some failure, rfl, .exhausted accepted less lasts ended, .inl ⟨failure, rfl, rfl⟩⟩
  · rw [failed]
    exact ⟨_, _, some (.invalidConfig fault), rfl, .refused split accepted refusal, .inl ⟨_, rfl, rfl⟩⟩

end Stage

end LeaseQueue
