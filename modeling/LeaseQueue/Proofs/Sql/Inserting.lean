import LeaseQueue.Proofs.Queue.Acceptance
import LeaseQueue.Proofs.Sql.Mutating

/-!
What the database hears of a chunk of messages. Attempts and metadata of all of them are checked before the first
statement, but each delay only when its message's turn has come. A delay that is too long is found after the inserts of
the messages before it.
-/
namespace LeaseQueue

namespace Queue

/-- What the checks before a chunk is written find: all that a queue can have against a message but its delay. -/
def Objects (queue : Queue) (message : NewMessage) (fault : ConfigFault) : Prop :=
  queue.Refusal message fault ∧ ∀ duration, fault ≠ .durationOutOfRange duration

variable {queue : Queue} {message : NewMessage} {fault : ConfigFault}

theorem not_delayed (queue : Queue) (message : NewMessage) :
    ¬ longestSpan < queue.delayOf { message with delay := some 0 } := of_decide_eq_true rfl

/-- Without its delay, a message has only the other faults left. -/
theorem objects_iff : queue.Objects message fault ↔ queue.Refusal { message with delay := some 0 } fault := by
  constructor
  · rintro ⟨refusal, other⟩
    cases refusal with
    | attempts asked few => exact .attempts asked few
    | undeclared given unknown => exact .undeclared given unknown
    | mistyped given known differs => exact .mistyped given known differs
    | delay long => exact absurd rfl (other _)
  · intro refusal
    cases refusal with
    | attempts asked few => exact ⟨.attempts asked few, nofun⟩
    | undeclared given unknown => exact ⟨.undeclared given unknown, nofun⟩
    | mistyped given known differs => exact ⟨.mistyped given known differs, nofun⟩
    | delay long => exact absurd long (not_delayed queue message)

theorem checkMessage_objects (queue : Queue) (message : NewMessage) :
    (queue.checkMessage message = .ok () ∧ ∀ fault, ¬ queue.Objects message fault) ∨
      ∃ fault, queue.Objects message fault ∧ queue.checkMessage message = .error (.invalidConfig fault) := by
  simp only [objects_iff]
  rcases checkMessage_cases queue { message with delay := some 0 } with ⟨passed, long⟩ | refused
  · exact .inl ⟨passed, fun fault refusal => absurd (long fault refusal) (not_delayed queue message)⟩
  · exact .inr refused

/-- A chunk is checked as a whole: some message has a fault, or none. -/
theorem checkChunk_objects (queue : Queue) (chunk : List NewMessage) :
    (chunk.forM queue.checkMessage = .ok () ∧ ∀ message ∈ chunk, ∀ fault, ¬ queue.Objects message fault) ∨
      ∃ message ∈ chunk, ∃ fault, queue.Objects message fault ∧
        chunk.forM queue.checkMessage = .error (.invalidConfig fault) := by
  rcases forM_cases queue.checkMessage chunk with ⟨valid, passed⟩ | ⟨message, member, failure, failed, stopped⟩
  · refine .inl ⟨passed, fun message member fault objects => ?_⟩
    rcases checkMessage_objects queue message with ⟨_, none⟩ | ⟨_, _, refused⟩
    · exact none fault objects
    · cases refused.symm.trans (valid message member)
  · rcases checkMessage_objects queue message with ⟨passed, _⟩ | ⟨fault, objects, refused⟩
    · cases passed.symm.trans failed
    · cases refused.symm.trans failed
      exact .inr ⟨message, member, fault, objects, stopped⟩

end Queue

namespace Sql

variable {queue : Queue} {shard : Int} {message : NewMessage} {messages earlier rest : List NewMessage}
  {exchanges : Exchanges} {outcome ending : Except Error (List MessageId)}

/-- The delay of the message fits a parameter in milliseconds. -/
def Prompt (queue : Queue) (message : NewMessage) : Prop := (queue.delayOf message).millis ≤ longestMillis

instance (queue : Queue) (message : NewMessage) : Decidable (Prompt queue message) := Nat.decLe _ _

/-- What is sent for a message. -/
def insertion (queue : Queue) (shard : Int) (message : NewMessage) : Request :=
  .query (insertStatement queue shard message (.bigInt (queue.delayOf message).millis))

/-- Requests are sent one after the other until one is not served, which makes an error. Where all of them are served,
it ends otherwise. -/
inductive UntilFailure (requests : List Request) (whole : Except Error (List MessageId) → Prop) :
    Exchanges → Except Error (List MessageId) → Prop
  | whole {exchanges : Exchanges} {outcome : Except Error (List MessageId)}
      (asked : exchanges.map Exchange.request = requests) (all : Served exchanges) (ending : whole outcome) :
      UntilFailure requests whole exchanges outcome
  | cut {before : Exchanges} {last : Exchange Request Request.Answer} {fault : StoreFault}
      (asked : (before ++ [last]).map Exchange.request <+: requests) (all : Served before)
      (unserved : served last = false) : UntilFailure requests whole (before ++ [last]) (.error (.persistence fault))

theorem UntilFailure.weaken {requests : List Request} {whole other : Except Error (List MessageId) → Prop}
    (sent : UntilFailure requests whole exchanges outcome) (weaker : ∀ outcome, whole outcome → other outcome) :
    UntilFailure requests other exchanges outcome := by
  cases sent with
  | whole asked all ending => exact .whole asked all (weaker _ ending)
  | cut asked all unserved => exact .cut asked all unserved

namespace Action

/-- A statement that is served gives an id, and all others fail in the database. -/
theorem given_cases (context : String) (statement : Statement) (found : Option ResultSet) :
    let given : Except Error Int := ((found.elim (failed context) .ok : Except Error ResultSet).bind fun result =>
      result.rows.head?.elim (failed context) .ok).bind fun row => row.required MessageColumn.id.text Cell.bigInt?
    (served ⟨.query statement, found⟩ = true ∧ ∃ localId, given = .ok localId) ∨
      served ⟨.query statement, found⟩ = false ∧ ∃ fault, given = .error (.persistence fault) := by
  cases found with
  | none => exact .inr ⟨rfl, _, rfl⟩
  | some result =>
    dsimp only [Option.elim_some, Except.bind]
    unfold served
    dsimp only [Option.bind_some]
    cases result.rows.head? with
    | none => exact .inr ⟨rfl, _, rfl⟩
    | some row =>
      dsimp only [Option.elim_some, Option.any_some]
      cases read : row.required MessageColumn.id.text Cell.bigInt? with
      | ok localId => exact .inl ⟨rfl, localId, rfl⟩
      | error failure => exact .inr ⟨rfl, _, congrArg Except.error (Row.required_error read)⟩

/-- The insert of the first message is not served and ends the chunk, or the others follow it. -/
theorem insertMessages_cons (prompt : Prompt queue message)
    (ends : (insertMessages queue shard (message :: rest)).Ends exchanges outcome) :
    ∃ reply, let inserted : Exchange Request Request.Answer := ⟨insertion queue shard message, reply⟩
      (served inserted = false ∧ exchanges = [inserted] ∧ ∃ fault, outcome = .error (.persistence fault)) ∨
      served inserted = true ∧ ∃ localId later others, exchanges = inserted :: later ∧
        (insertMessages queue shard rest).Ends later others ∧ outcome = others.map (⟨localId, shard⟩ :: ·) := by
  have fits : checkMillis (queue.delayOf message) = .ok (.bigInt (queue.delayOf message).millis) := if_pos prompt
  unfold insertMessages at ends
  rw [fits] at ends
  obtain ⟨fetched, first, later, rfl, fetches, ends⟩ := Program.ends_bind.mp ends
  obtain ⟨executed, executes, rfl⟩ := Program.ends_bind_pure.mp fetches
  obtain ⟨found, rfl, rfl⟩ := execute_ends executes
  refine ⟨found, ?_⟩
  rcases given_cases "insert message failed" _ found with ⟨done, localId, given⟩ | ⟨undone, fault, given⟩
  · rw [given] at ends
    obtain ⟨others, inserts, rfl⟩ := Program.ends_bind_pure.mp ends
    exact .inr ⟨done, localId, later, others, rfl, inserts, rfl⟩
  · rw [given] at ends
    obtain ⟨rfl, rfl⟩ := ends
    exact .inl ⟨undone, rfl, fault, rfl⟩

/-- Messages that can be sent are inserted one by one until a statement is not served. What comes after them has the
last word where all are served. -/
theorem insertMessages_until (prompt : ∀ message ∈ earlier, Prompt queue message)
    (stops : ∀ exchanges outcome, (insertMessages queue shard rest).Ends exchanges outcome →
      exchanges = [] ∧ outcome = ending)
    (ends : (insertMessages queue shard (earlier ++ rest)).Ends exchanges outcome) :
    UntilFailure (earlier.map (insertion queue shard))
      (fun outcome => ∃ ids, ids.length = earlier.length ∧ outcome = ending.map (ids ++ ·)) exchanges outcome := by
  induction earlier generalizing exchanges outcome with
  | nil =>
    obtain ⟨rfl, rfl⟩ := stops _ _ ends
    exact .whole rfl nofun ⟨[], rfl, by cases outcome <;> rfl⟩
  | cons message others ih =>
    obtain ⟨first, later⟩ := List.forall_mem_cons.mp prompt
    obtain ⟨reply, ⟨undone, rfl, fault, rfl⟩ | ⟨done, localId, after, inner, rfl, inserts, rfl⟩⟩ :=
      insertMessages_cons first ends
    · exact @UntilFailure.cut _ _ [] _ fault (List.prefix_append [_] _) nofun undone
    · cases ih later inserts with
      | whole asked all last =>
        obtain ⟨ids, long, rfl⟩ := last
        refine .whole (congrArg (_ :: ·) asked) (List.forall_mem_cons.mpr ⟨done, all⟩)
          ⟨⟨localId, shard⟩ :: ids, congrArg (· + 1) long, ?_⟩
        cases ending <;> rfl
      | @cut before last fault asked all undone =>
        exact @UntilFailure.cut _ _ (⟨insertion queue shard message, reply⟩ :: before) last fault
          ((List.prefix_cons_inj _).mpr asked) (List.forall_mem_cons.mpr ⟨done, all⟩) undone

/-- What is sent of a chunk. If the attempts or the metadata of any message are at fault, nothing is. Otherwise there is
one insert for each message in order until one is not served, except that the first delay that is too long ends the
chunk when its turn has come: the inserts before it have been sent. -/
theorem insertChunk_validates {chunk : List NewMessage}
    (ends : (insertChunk queue shard chunk).Ends exchanges outcome) :
    ((∃ message ∈ chunk, ∃ fault, queue.Objects message fault) → exchanges = [] ∧
      ∃ message ∈ chunk, ∃ fault, queue.Objects message fault ∧ outcome = .error (.invalidConfig fault)) ∧
    ((∀ message ∈ chunk, ∀ fault, ¬ queue.Objects message fault) →
      ((∀ message ∈ chunk, Prompt queue message) →
        UntilFailure (chunk.map (insertion queue shard))
          (fun outcome => ∃ ids, ids.length = chunk.length ∧ outcome = .ok ids) exchanges outcome) ∧
      ∀ earlier message later, chunk = earlier ++ message :: later → (∀ before ∈ earlier, Prompt queue before) →
        ¬ Prompt queue message →
          UntilFailure (earlier.map (insertion queue shard))
            (· = .error (.invalidConfig (.longDuration (queue.delayOf message)))) exchanges outcome) := by
  unfold insertChunk at ends
  rcases queue.checkChunk_objects chunk with ⟨passed, clean⟩ | ⟨message, member, fault, objects, refused⟩
  · rw [passed] at ends
    refine ⟨fun ⟨message, member, fault, objects⟩ => absurd objects (clean message member fault), fun _ => ⟨?_, ?_⟩⟩
    · intro prompt
      have stops : ∀ exchanges outcome, (insertMessages queue shard []).Ends exchanges outcome →
          exchanges = [] ∧ outcome = .ok [] := fun _ _ ends => ends
      refine (insertMessages_until prompt stops (chunk.append_nil.symm ▸ ends)).weaken fun outcome => ?_
      rintro ⟨ids, long, rfl⟩
      exact ⟨ids, long, congrArg Except.ok ids.append_nil⟩
    · rintro earlier message later rfl prompt late
      have long : checkMillis (queue.delayOf message) = .error (.invalidConfig (.longDuration _)) := if_neg late
      have stops : ∀ exchanges outcome, (insertMessages queue shard (message :: later)).Ends exchanges outcome →
          exchanges = [] ∧ outcome = .error (.invalidConfig (.longDuration (queue.delayOf message))) := by
        intro exchanges outcome ends
        unfold insertMessages at ends
        rw [long] at ends
        exact ends
      refine (insertMessages_until prompt stops ends).weaken fun outcome => ?_
      rintro ⟨ids, _, rfl⟩
      rfl
  · rw [refused] at ends
    obtain ⟨rfl, rfl⟩ := ends
    exact ⟨fun _ => ⟨rfl, message, member, fault, objects, rfl⟩, fun clean =>
      absurd objects (clean message member fault)⟩

end Action

/-- The second of two inserts is not served, and that is the end. -/
theorem second_insert_unserved :
    let connection : Connection := { Connection.fresh with replies := [some idRow, none] }
    let run := (Action.insertChunk notes 1 [note, note]).told Connection.answer connection
    run.length = 2 ∧ UntilFailure [insertion notes 1 note, insertion notes 1 note]
      (fun outcome => ∃ ids, ids.length = 2 ∧ outcome = .ok ids) run
      (.error (.persistence (.failed "insert message failed"))) := by
  intro connection run
  have result : ((Action.insertChunk notes 1 [note, note]).run Connection.answer connection).1 =
      .error (.persistence (.failed "insert message failed")) := by decide +kernel
  have ends := result ▸ (Action.insertChunk notes 1 [note, note]).told_ends Connection.answer connection
  have clean : ∀ fault, ¬ notes.Objects note fault := by
    rcases notes.checkMessage_objects note with ⟨_, clean⟩ | ⟨_, _, refused⟩
    · exact clean
    · cases refused
  have each {property : NewMessage → Prop} (fits : property note) : ∀ message ∈ [note, note], property message := by
    simpa using fits
  exact ⟨by decide +kernel, ((Action.insertChunk_validates ends).2 (each clean)).1 (each (by decide +kernel))⟩

/-- A message whose delay is too long for the statement. -/
def lateNote : NewMessage := { note with delay := some 10000000000000000000000000 }

/-- The message before it is inserted all the same. -/
theorem late_note_found_late :
    let connection : Connection := { Connection.fresh with replies := [some idRow] }
    let chunk := Action.insertChunk notes 1 [note, lateNote]
    ¬ Prompt notes lateNote ∧ (chunk.told Connection.answer connection).length = 1 ∧
      (chunk.run Connection.answer connection).1 =
        .error (.invalidConfig (.longDuration 10000000000000000000000000)) := by
  refine ⟨?_, ?_, ?_⟩ <;> decide +kernel

end Sql

end LeaseQueue
