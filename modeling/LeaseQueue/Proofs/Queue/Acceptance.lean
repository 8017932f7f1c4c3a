import LeaseQueue.Proofs.Memory.History
import LeaseQueue.Proofs.Sql.Sending

/-!
What two stores make of one batch. Both judge a chunk by its messages alone, and what they report of the batch follows
from that; ids and the wording of errors are up to each of them.
-/
namespace LeaseQueue

/-- The message passes the checks of the queue, and its delay is a span of the calendar's arithmetic. -/
def Queue.Accepts (queue : Queue) (message : NewMessage) : Prop :=
  queue.checkMessage message = .ok () ∧ queue.delayOf message ≤ longestSpan

/-- A delay leads to an instant of the calendar, or is longer than any span by a millisecond or more. -/
def Timely (now : Instant) (delay : Duration) : Prop :=
  (Instant.earliest ≤ now + delay ∧ now + delay ≤ Instant.latest) ∨ longestSpan + nanosPerMilli ≤ delay

instance (now : Instant) (delay : Duration) : Decidable (Timely now delay) := inferInstanceAs (Decidable (_ ∨ _))

namespace Timely

variable {now : Instant} {delay : Duration}

theorem add (timely : Timely now delay) (short : delay ≤ longestSpan) : now.add delay = .ok (now + delay) := by
  rcases timely with inside | long
  · exact if_pos inside
  · have positive : (0 : Int) < nanosPerMilli := by decide
    omega

/-- The milliseconds of a delay fit a parameter where the delay is a span. -/
theorem millis_le (timely : Timely now delay) (start : Instant.earliest ≤ now) :
    delay.millis ≤ Sql.longestMillis ↔ delay ≤ longestSpan := by
  have longest : longestSpan = 9223372036854775807 * 1000000 := by decide
  have first : Instant.earliest = -8334601228800000000000 := by decide
  have last : Instant.latest = 8210266876799999999999 := by decide
  have milli : nanosPerMilli = 1000000 := rfl
  have whole (amount : Nat) :
      amount / 1000000 ≤ 9223372036854775807 ↔ (amount : Int) < 9223372036854775808 * 1000000 := by
    omega
  -- The calendar is shorter than the longest span.
  have width (begun amount : Int) (lower : -8334601228800000000000 ≤ begun)
      (upper : begun + amount ≤ 8210266876799999999999) : amount ≤ 9223372036854775807 * 1000000 := by
    omega
  refine (whole delay).trans ?_
  rcases timely with ⟨_, upper⟩ | long
  · have short := width now delay (first ▸ start) (last ▸ upper)
    omega
  · omega

end Timely

/-- How a chunk fares by its messages: it gets an id for each of them, or it is refused as one of them is. -/
inductive Judged (queue : Queue) (chunk : List NewMessage) : Except Error (List MessageId) → Prop
  | accepted {ids : List MessageId} (all : ∀ message ∈ chunk, queue.Accepts message)
      (long : ids.length = chunk.length) : Judged queue chunk (.ok ids)
  | refused {message : NewMessage} {fault : ConfigFault} (member : message ∈ chunk)
      (other : ¬ queue.Accepts message) : Judged queue chunk (.error (.invalidConfig fault))

/-- What is reported of a batch whose chunks fare by their messages. -/
inductive Reports (queue : Queue) (mode : PartialInsert) (total : Nat) :
    SendResult → List (List NewMessage) → SendResult → Prop
  | done {result : SendResult} : Reports queue mode total result [] result
  | sent {result last : SendResult} {chunk : List NewMessage} {rest : List (List NewMessage)} {ids : List MessageId}
      (judged : Judged queue chunk (.ok ids)) (others : Reports queue mode total (result.addSent ids) rest last) :
      Reports queue mode total result (chunk :: rest) last
  | prohibited {result : SendResult} {chunk : List NewMessage} {rest : List (List NewMessage)} {failure : Error}
      (judged : Judged queue chunk (.error failure)) (whole : mode = .prohibited) :
      Reports queue mode total result (chunk :: rest) (.allFailed total failure)
  | stopped {result : SendResult} {chunk : List NewMessage} {rest : List (List NewMessage)} {failure : Error}
      (judged : Judged queue chunk (.error failure)) (first : mode = .untilFirstFailure) :
      Reports queue mode total result (chunk :: rest) (result.addFailed (total - result.ids.length) failure)
  | skipped {result last : SendResult} {chunk : List NewMessage} {rest : List (List NewMessage)} {failure : Error}
      (judged : Judged queue chunk (.error failure)) (each : mode = .asManyAsPossible)
      (others : Reports queue mode total (result.addFailed chunk.length failure) rest last) :
      Reports queue mode total result (chunk :: rest) last

/-- Failures of the same messages for the same kind of reason. -/
structure SendFailure.Alike (one other : SendFailure) : Prop where
  first : one.first = other.first
  stop : one.stop = other.stop
  kind : one.error.ctorIdx = other.error.ctorIdx

/-- Results that have ids at the same positions and fail alike. -/
structure SendResult.Alike (one other : SendResult) : Prop where
  positions : one.ids.map Option.isSome = other.ids.map Option.isSome
  failures : List.Forall₂ SendFailure.Alike one.failures other.failures

namespace SendResult.Alike

variable {one other : SendResult}

theorem empty : SendResult.empty.Alike SendResult.empty := ⟨rfl, .nil⟩

theorem length (alike : one.Alike other) : one.ids.length = other.ids.length := by
  have same := congrArg List.length alike.positions
  rwa [List.length_map, List.length_map] at same

theorem addSent (alike : one.Alike other) {ids others : List MessageId} (same : ids.length = others.length) :
    (one.addSent ids).Alike (other.addSent others) := by
  refine ⟨?_, alike.failures⟩
  unfold SendResult.addSent
  have present (ids : List MessageId) : (ids.map some).map Option.isSome = List.replicate ids.length true := by
    rw [List.map_map]
    exact List.map_const' ..
  rw [List.map_append, List.map_append, alike.positions, present, present, same]

theorem addFailed (alike : one.Alike other) (count : Nat) {failure cause : Error}
    (kind : failure.ctorIdx = cause.ctorIdx) : (one.addFailed count failure).Alike (other.addFailed count cause) := by
  unfold SendResult.addFailed
  refine ⟨?_, List.rel_append alike.failures (.cons ⟨alike.length, ?_, kind⟩ .nil)⟩
  · rw [List.map_append, List.map_append, alike.positions]
  · exact congrArg (· + count) alike.length

end SendResult.Alike

section

variable {queue : Queue} {mode : PartialInsert} {chunk : List NewMessage}

theorem Judged.long {ids : List MessageId} (judged : Judged queue chunk (.ok ids)) : ids.length = chunk.length := by
  cases judged with
  | accepted all long => exact long

theorem Judged.apart {ids : List MessageId} {failure : Error} (sent : Judged queue chunk (.ok ids))
    (failed : Judged queue chunk (.error failure)) : False := by
  cases sent with
  | accepted all long =>
    cases failed with
    | refused member other => exact other (all _ member)

theorem Judged.kind {failure cause : Error} (one : Judged queue chunk (.error failure))
    (other : Judged queue chunk (.error cause)) : failure.ctorIdx = cause.ctorIdx := by
  cases one
  cases other
  rfl

/-- Whoever writes the chunks of a batch, what is reported is alike. -/
theorem Reports.alike {total : Nat} {one other last final : SendResult} {pieces : List (List NewMessage)}
    (here : Reports queue mode total one pieces last) (there : Reports queue mode total other pieces final)
    (alike : one.Alike other) : last.Alike final := by
  induction here generalizing other with
  | done =>
    cases there
    exact alike
  | sent judged others ih =>
    cases there with
    | sent found rest => exact ih rest (alike.addSent (judged.long.trans found.long.symm))
    | prohibited found | stopped found | skipped found => exact (judged.apart found).elim
  | prohibited judged whole =>
    cases there with
    | sent found => exact (found.apart judged).elim
    | prohibited found => exact SendResult.Alike.empty.addFailed total (judged.kind found)
    | stopped found first => cases whole.symm.trans first
    | skipped found each => cases whole.symm.trans each
  | stopped judged first =>
    cases there with
    | sent found => exact (found.apart judged).elim
    | prohibited found whole => cases whole.symm.trans first
    | stopped found => exact alike.length ▸ alike.addFailed _ (judged.kind found)
    | skipped found each => cases first.symm.trans each
  | skipped judged each others ih =>
    cases there with
    | sent found => exact (found.apart judged).elim
    | prohibited found whole => cases whole.symm.trans each
    | stopped found first => cases first.symm.trans each
    | skipped found _ rest => exact ih rest (alike.addFailed _ (judged.kind found))

end

namespace Queue

variable {queue : Queue} {message : NewMessage} {failure : Error}

theorem accepts_iff : queue.Accepts message ↔ ∀ fault, ¬ queue.Refusal message fault := by
  rcases checkMessage_cases queue message with ⟨passed, long⟩ | ⟨fault, refusal, failed⟩
  · constructor
    · intro accepts fault refusal
      exact Int.not_le.mpr (long fault refusal) accepts.2
    · intro accepted
      exact ⟨passed, Int.not_lt.mp fun tooLong => accepted _ (.delay tooLong)⟩
  · refine iff_of_false (fun accepts => ?_) fun accepted => accepted fault refusal
    cases failed.symm.trans accepts.1

theorem checkMessage_error (failed : queue.checkMessage message = .error failure) :
    ∃ fault, failure = .invalidConfig fault := by
  rcases checkMessage_cases queue message with ⟨passed, _⟩ | ⟨fault, _, refused⟩
  · cases passed.symm.trans failed
  · cases refused.symm.trans failed
    exact ⟨fault, rfl⟩

end Queue

/-! The database in memory -/

namespace IdSequence

/-- The sequence after some more calls for an identifier. -/
def advance (sequence : IdSequence) : Nat → IdSequence
  | 0 => sequence
  | calls + 1 => sequence.mint.2.advance calls

/-- The next so many calls for an identifier all get one. -/
def Lasts (sequence : IdSequence) (calls : Nat) : Prop :=
  ∀ earlier < calls, (sequence.advance earlier).mint.1.isOk

instance (sequence : IdSequence) (calls : Nat) : Decidable (sequence.Lasts calls) := Nat.decidableBallLT _ _

theorem advance_add (sequence : IdSequence) (calls more : Nat) :
    sequence.advance (calls + more) = (sequence.advance calls).advance more := by
  induction calls generalizing sequence with
  | zero => rw [Nat.zero_add]; rfl
  | succ calls ih =>
    rw [Nat.succ_add]
    exact ih sequence.mint.2

namespace Lasts

variable {sequence : IdSequence} {calls more : Nat}

theorem first (lasts : sequence.Lasts (calls + more)) : sequence.Lasts calls :=
  fun earlier less => lasts earlier (Nat.lt_add_right more less)

theorem rest (lasts : sequence.Lasts (calls + more)) : (sequence.advance calls).Lasts more := by
  intro earlier less
  rw [← advance_add]
  exact lasts _ (Nat.add_lt_add_left less calls)

theorem mint (lasts : sequence.Lasts calls) (positive : 0 < calls) : sequence.mint.1.isOk := lasts 0 positive

end Lasts

end IdSequence

namespace Stage

variable {queue : Queue} {now : Instant}

theorem delays_judged (queue : Queue) (messages : List NewMessage) :
    ((∀ message ∈ messages, queue.Accepts message) ∧
      delays queue messages = .ok (messages.map fun message => (queue.delayOf message, message))) ∨
    ∃ message ∈ messages, ¬ queue.Accepts message ∧ ∃ fault, delays queue messages = .error (.invalidConfig fault) := by
  rcases delays_cases queue messages with
    ⟨accepted, checked⟩ | ⟨early, message, late, fault, split, _, refusal, failed⟩
  · exact .inl ⟨fun message member => Queue.accepts_iff.mpr (accepted message member), checked⟩
  · have member : message ∈ messages := by simp [split]
    exact .inr ⟨message, member, fun accepts => Queue.accepts_iff.mp accepts fault refusal, fault, failed⟩

/-- Where the sequence lasts and no schedule leaves the calendar, every message gets a row. -/
theorem rows_given (queue : Queue) (shard : Int) {checked : List (Duration × NewMessage)}
    (inside : ∀ entry ∈ checked, ∃ due, now.add entry.1 = .ok due) {staging : Staging}
    (lasts : staging.sequence.Lasts (rowsDrawn now staging.sequence checked)) :
    ∃ staged, staged.length = checked.length ∧ (rows queue shard now checked).run.run staging =
      (.ok (.ok staged), { staging with
        sequence := staging.sequence.advance (rowsDrawn now staging.sequence checked) }) := by
  induction checked generalizing staging with
  | nil => exact ⟨[], rfl, rfl⟩
  | cons entry rest ih =>
    obtain ⟨delay, message⟩ := entry
    obtain ⟨⟨due, added⟩, others⟩ := List.forall_mem_cons.mp inside
    rw [rows_cons]
    unfold rowsDrawn at lasts ⊢
    cases minted : staging.sequence.mint.1 with
    | error failure =>
      rw [minted] at lasts
      have given := lasts.mint Nat.zero_lt_one
      rw [minted] at given
      cases given
    | ok id =>
      rw [minted, added] at lasts
      rw [added]
      dsimp only at lasts ⊢
      have later : staging.sequence.mint.2.Lasts (rowsDrawn now staging.sequence.mint.2 rest) :=
        (Nat.add_comm _ 1 ▸ lasts).rest
      obtain ⟨staged, long, ran⟩ := @ih others { staging with sequence := staging.sequence.mint.2 } later
      rw [ran]
      exact ⟨_ :: staged, congrArg (· + 1) long, rfl⟩

theorem chunk_judged (shard : Int) {messages : List NewMessage}
    (timely : ∀ message ∈ messages, Timely now (queue.delayOf message)) {staging : Staging}
    (lasts : staging.sequence.Lasts (chunkDrawn queue now staging.sequence messages)) :
    ∃ outcome after, (chunk queue shard now messages).run.run staging = (.ok outcome, after) ∧
      after.sequence = staging.sequence.advance (chunkDrawn queue now staging.sequence messages) ∧
      Judged queue messages outcome := by
  unfold chunk
  unfold chunkDrawn at lasts ⊢
  rcases delays_judged queue messages with ⟨all, given⟩ | ⟨message, member, refused, fault, given⟩
  · rw [given] at lasts ⊢
    dsimp only at lasts ⊢
    have inside : ∀ entry ∈ messages.map fun message => (queue.delayOf message, message),
        ∃ due, now.add entry.1 = .ok due := by
      intro entry listed
      obtain ⟨message, member, rfl⟩ := List.mem_map.mp listed
      exact ⟨_, (timely message member).add (all message member).2⟩
    obtain ⟨staged, long, ran⟩ := rows_given queue shard inside lasts
    rw [run_bind, ran]
    refine ⟨.ok (staged.map StoredMessage.address), _, rfl, rfl, .accepted all ?_⟩
    rw [List.length_map, long, List.length_map]
  · rw [given]
    exact ⟨_, staging, rfl, rfl, .refused member refused⟩

end Stage

theorem placeChunks_reports (mode : PartialInsert) {queue : Queue} (shard : Int) {now : Instant} (total : Nat)
    {pieces : List (List NewMessage)}
    (timely : ∀ chunk ∈ pieces, ∀ message ∈ chunk, Timely now (queue.delayOf message)) (result : SendResult)
    {staging : Staging} (lasts : staging.sequence.Lasts (Stage.batchDrawn mode queue shard now staging pieces)) :
    ∃ placement after, (placeChunks mode total (Stage.chunk queue shard now) result pieces).run.run staging =
      (.ok placement, after) ∧ Reports queue mode total result pieces placement.result := by
  induction pieces generalizing result staging with
  | nil => exact ⟨_, _, rfl, .done⟩
  | cons chunk rest ih =>
    obtain ⟨here, later⟩ := List.forall_mem_cons.mp timely
    unfold Stage.batchDrawn at lasts
    obtain ⟨outcome, between, ran, moved, judged⟩ := Stage.chunk_judged shard here lasts.first
    -- The chunks after it go on from where its draws left the sequence.
    have more := lasts.rest
    rw [← moved, ran] at more
    rw [placeChunks, run_bind, ran]
    cases outcome with
    | ok ids =>
      obtain ⟨placement, after, placed, reports⟩ := ih later (result.addSent ids) more
      exact ⟨placement, after, placed, .sent judged reports⟩
    | error failure =>
      cases mode with
      | prohibited => exact ⟨_, _, rfl, .prohibited judged rfl⟩
      | untilFirstFailure => exact ⟨_, _, rfl, .stopped judged rfl⟩
      | asManyAsPossible =>
        obtain ⟨placement, after, placed, reports⟩ := ih later (result.addFailed chunk.length failure) more
        exact ⟨placement, after, placed, .skipped judged rfl reports⟩

/-! A database with SQL -/

namespace Sql

/-- What was asked for was done, and a statement that was carried out gave an id. -/
def served : Exchange Request Request.Answer → Bool
  | ⟨.begin, done⟩ | ⟨.commit, done⟩ => done
  | ⟨.query _, found⟩ => (Option.bind found fun result : ResultSet => result.rows.head?).any fun row =>
      (row.required MessageColumn.id.text Cell.bigInt?).isOk
  | ⟨.rollback, _⟩ | ⟨.leave, _⟩ | ⟨.takeLocal _, _⟩ | ⟨.freeLocal _, _⟩ | ⟨.arm _, _⟩ | ⟨.disarm, _⟩ |
    ⟨.close, _⟩ => true

/-- Every statement of a send is carried out. -/
def Served (exchanges : Exchanges) : Prop := ∀ exchange ∈ exchanges, served exchange = true

instance (exchanges : Exchanges) : Decidable (Served exchanges) := List.decidableBAll _ exchanges

theorem served_query {statement : Statement} {found : Option ResultSet}
    (done : served ⟨.query statement, found⟩ = true) : ∃ result row localId, found = some result ∧
      result.rows.head? = some row ∧ row.required MessageColumn.id.text Cell.bigInt? = .ok localId := by
  cases found with
  | none => cases done
  | some result =>
    change (result.rows.head?.any fun row => (row.required MessageColumn.id.text Cell.bigInt?).isOk) = true at done
    cases head : result.rows.head? with
    | none => rw [head] at done; cases done
    | some row =>
      rw [head] at done
      change (row.required MessageColumn.id.text Cell.bigInt?).isOk = true at done
      cases read : row.required MessageColumn.id.text Cell.bigInt? with
      | error failure => rw [read] at done; cases done
      | ok localId => exact ⟨result, row, localId, rfl, head, read⟩

namespace Action

variable {queue : Queue} {shard : Int} {now : Instant} {exchanges : Exchanges}
variable {outcome : Except Error (List MessageId)}

/-- Where every statement is served, the messages get their ids up to the first delay that is too long. -/
theorem insertMessages_served {messages : List NewMessage}
    (ends : (insertMessages queue shard messages).Ends exchanges outcome)
    (served : Served exchanges) :
    ((∀ message ∈ messages, (queue.delayOf message).millis ≤ longestMillis) ∧
      ∃ ids, outcome = .ok ids ∧ ids.length = messages.length) ∨
    ∃ message ∈ messages, ¬ (queue.delayOf message).millis ≤ longestMillis ∧
      ∃ fault, outcome = .error (.invalidConfig fault) := by
  induction messages generalizing exchanges outcome with
  | nil =>
    obtain ⟨rfl, rfl⟩ := ends
    exact .inl ⟨nofun, [], rfl, rfl⟩
  | cons message rest ih =>
    unfold insertMessages checkMillis at ends
    by_cases short : (queue.delayOf message).millis ≤ longestMillis
    · rw [if_pos short] at ends
      obtain ⟨fetched, first, later, rfl, fetches, ends⟩ := Program.ends_bind.mp ends
      obtain ⟨executed, executes, rfl⟩ := Program.ends_bind_pure.mp fetches
      obtain ⟨found, rfl, rfl⟩ := execute_ends executes
      obtain ⟨done, others⟩ := List.forall_mem_cons.mp served
      obtain ⟨result, row, localId, rfl, head, id⟩ := served_query done
      have read : ((((some result).elim (failed "insert message failed") .ok : Except Error ResultSet).bind
          fun result => result.rows.head?.elim (failed "insert message failed") .ok).bind
            fun row => row.required MessageColumn.id.text Cell.bigInt?) = .ok localId := by
        change ((result.rows.head?.elim _ .ok : Except Error Row).bind _) = _
        rw [head]
        exact id
      rw [read] at ends
      obtain ⟨inserted, inserts, rfl⟩ := Program.ends_bind_pure.mp ends
      rcases ih inserts others with ⟨all, ids, rfl, long⟩ | ⟨other, member, wide, fault, rfl⟩
      · exact .inl ⟨List.forall_mem_cons.mpr ⟨short, all⟩, _, rfl, congrArg (· + 1) long⟩
      · exact .inr ⟨other, List.mem_cons_of_mem _ member, wide, fault, rfl⟩
    · rw [if_neg short] at ends
      obtain ⟨rfl, rfl⟩ := ends
      exact .inr ⟨message, List.mem_cons_self, short, _, rfl⟩

theorem insertChunk_judged {chunk : List NewMessage} (start : Instant.earliest ≤ now)
    (timely : ∀ message ∈ chunk, Timely now (queue.delayOf message))
    (ends : (insertChunk queue shard chunk).Ends exchanges outcome)
    (served : Served exchanges) : Judged queue chunk outcome := by
  unfold insertChunk at ends
  rcases forM_cases queue.checkMessage chunk with ⟨valid, passed⟩ | ⟨message, member, failure, failed, stopped⟩
  · rw [passed] at ends
    rcases insertMessages_served ends served with ⟨short, ids, rfl, long⟩ | ⟨message, member, wide, fault, rfl⟩
    · refine .accepted (fun message member => ⟨valid message member, ?_⟩) long
      exact ((timely message member).millis_le start).mp (short message member)
    · exact .refused member fun accepts => wide (((timely message member).millis_le start).mpr accepts.2)
  · rw [stopped] at ends
    obtain ⟨rfl, rfl⟩ := ends
    obtain ⟨fault, rfl⟩ := Queue.checkMessage_error failed
    exact .refused member fun accepts => (by cases failed.symm.trans accepts.1)

theorem writeChunk_judged {mode : PartialInsert} {chunk : List NewMessage} (start : Instant.earliest ≤ now)
    (timely : ∀ message ∈ chunk, Timely now (queue.delayOf message))
    (ends : (writeChunk queue shard mode chunk).Ends exchanges outcome)
    (served : Served exchanges) : Judged queue chunk outcome := by
  have saved (ends : (inSavepoint "begin send chunk failed" "commit send chunk failed"
      (insertChunk queue shard chunk)).Ends exchanges outcome) : Judged queue chunk outcome := by
    rw [inSavepoint_eq] at ends
    rcases enclosed_ends ends with ⟨rfl, _⟩ | ⟨within, inner, ending, rfl, ran, closed⟩
    · cases served _ (List.mem_singleton_self _)
    · have judged := insertChunk_judged start timely ran fun exchange member => served exchange (by simp [member])
      cases inner with
      | error failure =>
        obtain ⟨_, rfl⟩ := closed
        exact judged
      | ok ids =>
        obtain ⟨committed, rfl, rfl⟩ := closed
        obtain rfl : committed = true := served ⟨.commit, committed⟩ (by simp)
        exact judged
  cases mode with
  | prohibited => exact insertChunk_judged start timely ends served
  | untilFirstFailure | asManyAsPossible => exact saved ends

theorem placeChunks_reports {mode : PartialInsert} {total : Nat} {result : SendResult}
    {pieces : List (List NewMessage)} (start : Instant.earliest ≤ now)
    (timely : ∀ chunk ∈ pieces, ∀ message ∈ chunk, Timely now (queue.delayOf message)) {placement : Placement}
    (ends : (placeChunks mode total (writeChunk queue shard mode) result pieces).Ends exchanges placement)
    (served : Served exchanges) :
    Reports queue mode total result pieces placement.result := by
  induction pieces generalizing result exchanges with
  | nil =>
    obtain ⟨rfl, rfl⟩ := ends
    exact .done
  | cons chunk rest ih =>
    obtain ⟨here, later⟩ := List.forall_mem_cons.mp timely
    obtain ⟨outcome, first, others, rfl, wrote, ends⟩ := Program.ends_bind.mp ends
    obtain ⟨before, after⟩ := List.forall_mem_append.mp served
    have judged := writeChunk_judged start here wrote before
    cases outcome with
    | ok ids => exact .sent judged (ih later ends after)
    | error failure =>
      cases mode with
      | prohibited =>
        obtain ⟨rfl, rfl⟩ := ends
        exact .prohibited judged rfl
      | untilFirstFailure =>
        obtain ⟨rfl, rfl⟩ := ends
        exact .stopped judged rfl
      | asManyAsPossible => exact .skipped judged rfl (ih later ends after)

end Action

end Sql

/-! Both of them -/

section

variable {queue : Queue} {shard : Int} {messages : List NewMessage} {options : SendOptions} {now : Instant}

theorem timely_chunks (positive : options.batchSize ≠ 0)
    (timely : ∀ message ∈ messages, Timely now (queue.delayOf message)) :
    ∀ chunk ∈ chunks options.batchSize messages, ∀ message ∈ chunk, Timely now (queue.delayOf message) := by
  intro chunk listed message member
  have inside := List.mem_flatten_of_mem listed member
  rw [flatten_chunks positive] at inside
  exact timely message inside

/-- The sequence of the queue has all the ids that a send asks for. -/
def Database.Supplies (database : Database) (queue : Queue) (shard : Int) (messages : List NewMessage)
    (options : SendOptions) : Prop :=
  ∃ sequence, Run.sequenceOf queue database = .ok sequence ∧
    sequence.Lasts (Run.sendDrawn queue shard messages options database)

theorem Run.openTable_ok {before : Database} {sequence : IdSequence}
    (found : sequenceOf queue before = .ok sequence) :
    ∃ table opened, (openTable queue.name).run.run before = (.ok (.ok table), opened) ∧ table.sequence = sequence := by
  unfold sequenceOf at found
  rw [openTable_run]
  cases there : before.table? queue.name with
  | some table =>
    rw [there] at found
    cases found
    exact ⟨table, before, rfl, rfl⟩
  | none =>
    rw [there] at found
    dsimp only at found
    rw [found]
    exact ⟨_, _, rfl, rfl⟩

/-- A batched send reports what the placing of its chunks comes to. -/
theorem Run.sendBatched_placed {before : Database} {sequence : IdSequence} (valid : options.validate = .ok ())
    (filled : messages ≠ []) (clock : before.now = .ok now) (found : sequenceOf queue before = .ok sequence)
    {placement : Placement} {staging : Staging}
    (placed : (placeChunks options.partialInsert messages.length (Stage.chunk queue shard now) .empty
      (chunks options.batchSize messages)).run.run ⟨sequence, []⟩ = (.ok placement, staging)) :
    ∃ after, (sendBatched queue shard messages options).run.run before = (.ok (.ok placement.result), after) := by
  obtain ⟨table, opened, opening, rfl⟩ := openTable_ok found
  unfold sendBatched
  rw [valid]
  dsimp only
  rw [if_neg (mt List.isEmpty_iff.mp filled), run_bind, now_run, clock]
  dsimp only
  rw [run_bind, opening]
  dsimp only
  rw [run_bind]
  unfold place
  dsimp only
  rw [placed]
  exact ⟨_, rfl⟩

theorem Run.sendBatched_reports {before : Database} (valid : options.validate = .ok ()) (filled : messages ≠ [])
    (clock : before.now = .ok now) (timely : ∀ message ∈ messages, Timely now (queue.delayOf message))
    (supplies : before.Supplies queue shard messages options) :
    ∃ result after, (sendBatched queue shard messages options).run.run before = (.ok (.ok result), after) ∧
      Reports queue options.partialInsert messages.length .empty (chunks options.batchSize messages) result := by
  obtain ⟨sequence, found, lasts⟩ := supplies
  have drawn : sendDrawn queue shard messages options before = Stage.batchDrawn options.partialInsert queue shard now
      ⟨sequence, []⟩ (chunks options.batchSize messages) := by
    unfold sendDrawn
    rw [valid, clock, found]
  rw [drawn] at lasts
  obtain ⟨placement, staging, placed, reports⟩ := LeaseQueue.placeChunks_reports options.partialInsert shard
    messages.length (timely_chunks (SendOptions.validate_ok valid) timely) .empty lasts
  obtain ⟨after, ran⟩ := sendBatched_placed valid filled clock found placed
  exact ⟨placement.result, after, ran, reports⟩

theorem Sql.Action.sendBatched_reports {exchanges : Sql.Exchanges} {answer : Except Error SendResult}
    (valid : options.validate = .ok ()) (filled : messages ≠ []) (start : Instant.earliest ≤ now)
    (timely : ∀ message ∈ messages, Timely now (queue.delayOf message))
    (ends : (sendBatched queue shard messages options).Ends exchanges answer)
    (served : Served exchanges) :
    ∃ result, answer = .ok result ∧
      Reports queue options.partialInsert messages.length .empty (chunks options.batchSize messages) result := by
  unfold sendBatched at ends
  rw [valid] at ends
  dsimp only at ends
  rw [if_neg (mt List.isEmpty_iff.mp filled)] at ends
  obtain ⟨begun, later, rfl, rest⟩ := Program.ends_ask_bind.mp ends
  obtain ⟨rfl, within⟩ := List.forall_mem_cons.mp served
  obtain ⟨placement, placed, closing, rfl, ran, rest⟩ := Program.ends_bind.mp rest
  obtain ⟨before, after⟩ := List.forall_mem_append.mp within
  have reports := placeChunks_reports start (timely_chunks (SendOptions.validate_ok valid) timely) ran before
  split at rest
  · obtain ⟨committed, _, rfl, closed⟩ := Program.ends_ask_bind.mp rest
    obtain ⟨rfl, _⟩ := List.forall_mem_cons.mp after
    obtain ⟨rfl, rfl⟩ := closed
    exact ⟨placement.result, rfl, reports⟩
  · obtain ⟨_, _, rfl, rfl, rfl⟩ := Program.ends_ask_bind.mp rest
    exact ⟨placement.result, rfl, reports⟩

/-- Both answers are errors of one kind, or both are results that are alike. -/
inductive AnswerAlike : Except Error SendResult → Except Error SendResult → Prop
  | refused {failure cause : Error} (kind : failure.ctorIdx = cause.ctorIdx) :
      AnswerAlike (.error failure) (.error cause)
  | reported {one other : SendResult} (alike : one.Alike other) : AnswerAlike (.ok one) (.ok other)

/-- A database in memory and one with SQL accept and refuse the same messages of a batch, and group the failures in
the same way, as long as statements succeed and neither ids nor the calendar run out. -/
theorem sendBatched_alike {before : Database} (clock : before.now = .ok now)
    (timely : ∀ message ∈ messages, Timely now (queue.delayOf message))
    (supplies : before.Supplies queue shard messages options) {exchanges : Sql.Exchanges}
    {answer : Except Error SendResult}
    (ends : (Sql.Action.sendBatched queue shard messages options).Ends exchanges answer)
    (served : Sql.Served exchanges) :
    ∃ outcome after, (Run.sendBatched queue shard messages options).run.run before = (.ok outcome, after) ∧
      AnswerAlike outcome answer := by
  cases valid : options.validate with
  | error failure =>
    unfold Sql.Action.sendBatched at ends
    unfold Run.sendBatched
    rw [valid] at ends ⊢
    obtain ⟨rfl, rfl⟩ := ends
    exact ⟨_, before, rfl, .refused rfl⟩
  | ok _ =>
    by_cases filled : messages = []
    · subst filled
      unfold Sql.Action.sendBatched at ends
      unfold Run.sendBatched
      rw [valid] at ends ⊢
      obtain ⟨rfl, rfl⟩ := ends
      exact ⟨_, before, rfl, .reported .empty⟩
    · have start : Instant.earliest ≤ now := by
        unfold Database.now Instant.add at clock
        dsimp only at clock
        split at clock
        · rename_i inside
          cases clock
          exact inside.1
        · cases clock
      obtain ⟨one, after, ran, here⟩ := Run.sendBatched_reports valid filled clock timely supplies
      obtain ⟨other, rfl, there⟩ := Sql.Action.sendBatched_reports valid filled start timely ends served
      exact ⟨_, after, ran, .reported (here.alike there .empty)⟩

end

def parcels : Queue := .named ⟨"consignments", by decide +kernel⟩

/-- The delay of the second message is too long for either store. -/
def threeParcels : List NewMessage :=
  [⟨.empty, ∅, none, none⟩, ⟨.empty, ∅, some 10000000000000000000000000, none⟩, ⟨.empty, ∅, none, none⟩]

theorem second_parcel_refused :
    let sending := Sql.Action.sendBatched parcels 1 threeParcels ⟨1, .asManyAsPossible⟩
    let connection : Sql.Connection := { Sql.Connection.fresh with replies := [some Sql.idRow, some Sql.idRow] }
    Sql.Served (sending.told Sql.Connection.answer connection) ∧
      ∃ outcome after, (Run.sendBatched parcels 1 threeParcels ⟨1, .asManyAsPossible⟩).run.run .fresh =
        (.ok outcome, after) ∧ AnswerAlike outcome (sending.run Sql.Connection.answer connection).1 := by
  intro sending connection
  have served : Sql.Served (sending.told Sql.Connection.answer connection) := by decide +kernel
  have start : Run.sequenceOf parcels .fresh = .ok ⟨.default, 0, 1⟩ := by decide +kernel
  have supplies : Database.fresh.Supplies parcels 1 threeParcels ⟨1, .asManyAsPossible⟩ :=
    ⟨⟨.default, 0, 1⟩, start, by decide +kernel⟩
  have timely : ∀ message ∈ threeParcels, Timely 0 (parcels.delayOf message) := by decide +kernel
  exact ⟨served, sendBatched_alike rfl timely supplies (sending.told_ends Sql.Connection.answer connection) served⟩

end LeaseQueue
