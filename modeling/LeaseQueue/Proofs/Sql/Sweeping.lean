import LeaseQueue.Proofs.Sql.Batches

/-!
Sweeps by themselves. The lock of a sweep belongs to the session, so the connection may go back to the pool only if
the lock was never asked for, was refused, or was given back; in all other cases it has to be closed.
-/
namespace LeaseQueue.Sql

variable {engine : SweepEngine} {queue : QueueName} {hint : Nat} {exchanges : Exchanges}

/-- The local lock of the sweeps of a queue. -/
def sweepKey (engine : SweepEngine) (queue : QueueName) : LocalKey := ⟨engine.manager, engine.lockId queue⟩

/-- A sweep before it asks for its lock. -/
def opening (engine : SweepEngine) (queue : QueueName) : Exchanges :=
  [⟨.takeLocal (sweepKey engine queue), true⟩, ⟨.arm (.freeLocal (sweepKey engine queue)), ()⟩,
    ⟨.arm (.abandon (engine.lockId queue)), ()⟩]

/-- A sweep that asked for its lock, with the answer to that and what came of it until the end. -/
def underLock (engine : SweepEngine) (queue : QueueName) (found : Option ResultSet) (within : Exchanges) : Exchanges :=
  opening engine queue ++ ⟨.query (tryLockStatement (engine.lockId queue)), found⟩ ::
    (within ++ [⟨.disarm, ()⟩, ⟨.disarm, ()⟩, ⟨.freeLocal (sweepKey engine queue), ()⟩])

/-- The release of a lock. If it fails the connection is closed. -/
def releasing (lock : Int) (released : Option ResultSet) : Exchanges :=
  ⟨.query (unlockStatement lock), released⟩ :: if (lockReply released).isSome then [] else [⟨.close, ()⟩]

/-- The result of a sweep that had its lock: the first error of its batches and its release, or else the sum. -/
def verdict (batches : List BatchRun) (released : Option ResultSet) : Except Error SweepOutcome :=
  match tally (batches.map BatchRun.outcome), lockReply released with
  | .error failure, _ => .error failure
  | .ok total, some _ => .ok (.completed total.1 total.2)
  | .ok _, none => Action.failed "advisory unlock failed"

/-- The ways in which a sweep may go. -/
inductive SweepRun (engine : SweepEngine) (queue : QueueName) (hint : Nat) :
    Exchanges → Except Error SweepOutcome → Prop
  /-- Another task of the process is sweeping. -/
  | elsewhere : SweepRun engine queue hint [⟨.takeLocal (sweepKey engine queue), false⟩]
      (.ok .lockNotAcquired)
  | unanswered (found : Option ResultSet) (reply : lockReply found = none) :
      SweepRun engine queue hint (underLock engine queue found [⟨.close, ()⟩])
        (Action.failed "try advisory lock failed")
  | refused (found : Option ResultSet) (reply : lockReply found = some false) :
      SweepRun engine queue hint (underLock engine queue found []) (.ok .lockNotAcquired)
  | granted (found : Option ResultSet) (reply : lockReply found = some true) (batches : List BatchRun)
      (each : ∀ batch ∈ batches,
        (Action.deleteDead queue (max hint engine.settings.maxRows)).Ends batch.exchanges batch.outcome)
      (released : Option ResultSet) : SweepRun engine queue hint (underLock engine queue found
        (batches.flatMap BatchRun.exchanges ++ releasing (engine.lockId queue) released)) (verdict batches released)

theorem sweep_runs {result : Except Error SweepOutcome}
    (ends : (engine.sweep Action.standalone queue hint).Ends exchanges result) :
    SweepRun engine queue hint exchanges result := by
  obtain ⟨outcome, runs, rfl⟩ := Program.ends_bind_pure.mp ends
  unfold LockTiers.tryRunExclusive at runs
  dsimp only at runs
  rw [if_neg List.not_mem_nil] at runs
  obtain ⟨taken, later, shape, rest⟩ := Program.ends_ask_bind.mp runs
  cases taken with
  | false =>
    obtain ⟨rfl, rfl⟩ := rest
    subst shape
    exact .elsewhere
  | true =>
    obtain ⟨_, _, _, rfl, guarded, _, _, rfl, rfl, rfl⟩ := Program.ends_bind.mp rest
    obtain ⟨_, _, rfl, inside⟩ := Program.ends_ask_bind.mp guarded
    obtain ⟨outcome, within, _, rfl, inside, _, _, rfl, rfl, rfl⟩ := Program.ends_bind.mp inside
    obtain ⟨found, middle, rfl, ran⟩ := Action.underAdvisory_ends inside
    obtain rfl : exchanges = underLock engine queue found middle := by
      rw [shape]
      simp only [List.cons_append, List.append_assoc]
      rfl
    cases reply : lockReply found with
    | none =>
      rw [reply] at ran
      obtain ⟨rfl, rfl⟩ := ran
      exact .unanswered found reply
    | some granted =>
      rw [reply] at ran
      cases granted with
      | false =>
        obtain ⟨rfl, rfl⟩ := ran
        exact .refused found reply
      | true =>
        obtain ⟨result, swept, last, rfl, ran, releases⟩ := ran
        obtain ⟨batches, rfl, each, rfl⟩ := batches_ends ran
        obtain ⟨released, ended⟩ := Action.release_ends releases
        have done := SweepRun.granted found reply batches each released
        unfold releasing verdict at done
        cases unlocked : lockReply released with
        | none =>
          rw [unlocked] at ended done
          obtain ⟨rfl, rfl⟩ := ended
          cases total : tally (batches.map BatchRun.outcome) <;> rw [total] at done <;> exact done
        | some held =>
          rw [unlocked] at ended done
          obtain ⟨rfl, rfl⟩ := ended
          cases total : tally (batches.map BatchRun.outcome) <;> rw [total] at done <;> exact done

/-- A sweep that can be cut short has armed its guards, and waits for its lock, for a batch or for the release. -/
theorem sweep_waits {pending : Request} (waits : (engine.sweep Action.standalone queue hint).Waits exchanges pending)
    (awaits : pending.awaits = true) :
    ∃ later, exchanges = opening engine queue ++ later ∧
      ((later = [] ∧ pending = .query (tryLockStatement (engine.lockId queue))) ∨ ∃ found ran,
        later = ⟨.query (tryLockStatement (engine.lockId queue)), found⟩ :: ran ∧ lockReply found = some true ∧
        (∀ exchange ∈ ran, InBatch queue (max hint engine.settings.maxRows) exchange.request) ∧
        (pending = .query (unlockStatement (engine.lockId queue)) ∨
          InBatch queue (max hint engine.settings.maxRows) pending)) := by
  have exclusive := Program.waits_bind_pure.mp waits
  unfold LockTiers.tryRunExclusive at exclusive
  dsimp only at exclusive
  rw [if_neg List.not_mem_nil] at exclusive
  obtain ⟨taken, _, rfl, taking⟩ := Action.waits_past rfl exclusive awaits
  cases taken with
  | false => exact taking.elim
  | true =>
    rcases Program.waits_bind.mp taking with guarded | ⟨_, _, _, _, _, frees⟩
    · obtain ⟨_, _, rfl, armed⟩ := Action.waits_past rfl guarded awaits
      rcases Program.waits_bind.mp armed with inside | ⟨_, _, _, _, _, disarms⟩
      · obtain ⟨later, rfl, place⟩ := Action.underAdvisory_waits inside awaits
        refine ⟨later, rfl, place.imp_right ?_⟩
        rintro ⟨found, ran, rfl, reply, sweeping | ⟨⟨result, ends⟩, rfl⟩⟩
        · obtain ⟨past, now⟩ := batches_within.waits sweeping
          exact ⟨found, ran, rfl, reply, past, .inr now⟩
        · exact ⟨found, ran, rfl, reply, batches_within.ends ends, .inl rfl⟩
      · obtain ⟨_, _, _, impossible⟩ := Action.waits_past rfl disarms awaits
        exact impossible.elim
    · obtain ⟨_, _, _, impossible⟩ := Action.waits_past rfl frees awaits
      exact impossible.elim

/-! What a sweep calls, and when it closes the connection -/

section

variable {statement : Statement} {reply : Option Bool} {first later : Exchanges}

theorem says_opening : Says (opening engine queue ++ later) statement reply ↔ Says later statement reply := by
  unfold opening
  rw [List.cons_append, says_quiet rfl, List.cons_append, says_quiet rfl, List.cons_append, says_quiet rfl,
    List.nil_append]

theorem says_underLock {found : Option ResultSet} :
    Says (underLock engine queue found first) statement reply ↔
      (statement = tryLockStatement (engine.lockId queue) ∧ lockReply found = reply) ∨ Says first statement reply := by
  unfold underLock
  rw [says_opening, says_query, says_append, says_quiet rfl, says_quiet rfl, says_quiet rfl, or_iff_left says_nil]

theorem says_releasing {lock : Int} {released : Option ResultSet} :
    Says (releasing lock released) statement reply ↔ statement = unlockStatement lock ∧ lockReply released = reply := by
  unfold releasing
  rw [says_query]
  split
  · exact or_iff_left says_nil
  · rw [says_quiet rfl]
    exact or_iff_left says_nil

end

theorem asked_underLock {found : Option ResultSet} {within : Exchanges} :
    asked (underLock engine queue found within) = tryLockStatement (engine.lockId queue) :: asked within := by
  change _ :: asked (within ++ _) = _
  rw [asked_append]
  exact congrArg (_ :: ·) (List.append_nil _)

theorem asked_releasing {lock : Int} {released : Option ResultSet} :
    asked (releasing lock released) = [unlockStatement lock] := by
  unfold releasing
  split <;> rfl

theorem closing_underLock {found : Option ResultSet} {within : Exchanges} :
    Closing (underLock engine queue found within) ↔ Closing within := by
  simp [Closing, underLock, opening, -List.mem_map]

theorem closing_releasing {lock : Int} {released : Option ResultSet} :
    Closing (releasing lock released) ↔ lockReply released = none := by
  unfold Closing releasing
  cases lockReply released <;> simp [-List.mem_map]

/-- Under the rules of the package, the release is sent, unless the last batch failed and a rollback is owed for it that
fails as well. -/
theorem release_sent {answers : (request : Request) → Connection.Talk request.Answer}
    (keeps : Connection.KeepsTransactions answers) {start final : Connection} {found released : Option ResultSet}
    {batches : List BatchRun}
    (each : ∀ batch ∈ batches,
      (Action.deleteDead queue (max hint engine.settings.maxRows)).Ends batch.exchanges batch.outcome)
    (answered : Program.Answered answers start (underLock engine queue found
      (batches.flatMap BatchRun.exchanges ++ releasing (engine.lockId queue) released)) final)
    (outside : start.depth = 0) :
    (∃ earlier, final.log = .query (unlockStatement (engine.lockId queue)) :: earlier) ∨
      (∃ failure, tally (batches.map BatchRun.outcome) = .error failure) ∧ lockReply released = none ∧
        ∃ earlier, final.log = .control "ROLLBACK" :: earlier := by
  obtain ⟨opened, opening, _, rest⟩ := (Program.answered_append _).mp answered
  obtain ⟨unlocked, within, putAway⟩ := (Program.answered_append _).mp rest
  obtain ⟨swept, ran, said, closing⟩ := (Program.answered_append _).mp within
  have before : opened.depth = 0 := by
    obtain ⟨_, _, _, rfl⟩ := opening
    rw [keeps.other_depth (.arm _) rfl nofun, keeps.other_depth (.arm _) rfl nofun,
      keeps.other_depth (.takeLocal _) rfl nofun, outside]
  obtain ⟨_, owed⟩ := batches_owe keeps each ran ((keeps.query_depth _ _).trans before) (.inl (keeps.query_owed _ _))
  have last : final.log = (answers (.query (unlockStatement (engine.lockId queue))) swept).2.log := by
    refine (keeps.answered_log ?_ putAway).trans (keeps.answered_log ?_ closing)
    · simp [Request.awaits]
    · split <;> simp [Request.awaits]
  rw [last]
  rcases keeps.query_sent (unlockStatement (engine.lockId queue)) _ _ (owed.imp_right And.left) with
    sent | ⟨owes, silent, failed⟩
  · exact .inl sent
  · refine .inr ⟨?_, ?_, _, failed⟩
    · exact (owed.resolve_left fun clear => nomatch clear.symm.trans owes).2.resolve_left
        fun owing => nomatch (keeps.query_owed _ _).symm.trans owing
    · rw [show released = none from (said.symm.trans silent)]
      rfl

/-- A connection over which these statements were sent may go back to the pool: the session does not hold the lock. -/
def Returnable (lock : Int) (sent : List Statement) (exchanges : Exchanges) : Prop :=
  tryLockStatement lock ∉ sent ∨ Says exchanges (tryLockStatement lock) (some false) ∨
    ∃ held, Says exchanges (unlockStatement lock) (some held)

/-- A sweep asks for its lock unless another task of the process is sweeping. Its result is told from what its
statements found, and a lock that was granted is released once, behind all batches. Whether the release is sent is up
to the package that manages the transactions, and only its rules are assumed for that. -/
structure Accounted (engine : SweepEngine) (queue : QueueName) (hint : Nat) (exchanges : Exchanges)
    (result : Except Error SweepOutcome) : Prop where
  unsent : tryLockStatement (engine.lockId queue) ∉ asked exchanges →
    exchanges = [⟨.takeLocal (sweepKey engine queue), false⟩]
  missed : tryLockStatement (engine.lockId queue) ∉ asked exchanges ∨
    Says exchanges (tryLockStatement (engine.lockId queue)) (some false) → result = .ok .lockNotAcquired
  unanswered : Says exchanges (tryLockStatement (engine.lockId queue)) none →
    result = Action.failed "try advisory lock failed"
  swept : Says exchanges (tryLockStatement (engine.lockId queue)) (some true) → ∃ found batches released,
    exchanges = underLock engine queue found
      (batches.flatMap BatchRun.exchanges ++ releasing (engine.lockId queue) released) ∧
    (∀ batch ∈ batches,
      (Action.deleteDead queue (max hint engine.settings.maxRows)).Ends batch.exchanges batch.outcome ∧
      ∀ statement ∈ asked batch.exchanges, statement = sweepStatement queue (max hint engine.settings.maxRows)) ∧
    asked exchanges = tryLockStatement (engine.lockId queue) :: ((batches.flatMap fun batch => asked batch.exchanges) ++
      [unlockStatement (engine.lockId queue)]) ∧
    result = verdict batches released ∧
    ∀ answers : (request : Request) → Connection.Talk request.Answer, Connection.KeepsTransactions answers →
      ∀ start final : Connection, start.depth = 0 → Program.Answered answers start exchanges final →
        (∃ earlier, final.log = .query (unlockStatement (engine.lockId queue)) :: earlier) ∨
        (∃ failure, tally (batches.map BatchRun.outcome) = .error failure) ∧ lockReply released = none ∧
          ∃ earlier, final.log = .control "ROLLBACK" :: earlier

section

variable {found released : Option ResultSet} {within : Exchanges} {reply : Option Bool}

theorem says_tryLock (silent : ¬Says within (tryLockStatement (engine.lockId queue)) reply) :
    Says (underLock engine queue found within) (tryLockStatement (engine.lockId queue)) reply ↔
      lockReply found = reply := by
  rw [says_underLock, or_iff_left silent, and_iff_right rfl]

theorem says_unlock : Says (underLock engine queue found within) (unlockStatement (engine.lockId queue)) reply ↔
    Says within (unlockStatement (engine.lockId queue)) reply := by
  rw [says_underLock, or_iff_right fun same => tryLockStatement_ne_unlockStatement _ _ same.1.symm]

theorem tryLock_asked :
    tryLockStatement (engine.lockId queue) ∈ asked (underLock engine queue found within) := by
  rw [asked_underLock]
  exact List.mem_cons_self

/-- A sweep that asked for its lock missed it only if that was refused. -/
theorem missed_underLock (silent : ∀ reply, ¬Says within (tryLockStatement (engine.lockId queue)) reply) :
    (tryLockStatement (engine.lockId queue) ∉ asked (underLock engine queue found within) ∨
      Says (underLock engine queue found within) (tryLockStatement (engine.lockId queue)) (some false)) ↔
      lockReply found = some false := by
  rw [says_tryLock (silent _), or_iff_right (not_not_intro tryLock_asked)]

theorem returnable_underLock (silent : ∀ reply, ¬Says within (tryLockStatement (engine.lockId queue)) reply) :
    Returnable (engine.lockId queue) (asked (underLock engine queue found within))
        (underLock engine queue found within) ↔
      lockReply found = some false ∨ ∃ held, Says within (unlockStatement (engine.lockId queue)) (some held) := by
  unfold Returnable
  rw [← or_assoc, missed_underLock silent]
  simp only [says_unlock]

variable {batches : List BatchRun} {rows : Nat}

/-- Between its lock and the end, a sweep only calls the release. -/
theorem says_granted (each : ∀ batch ∈ batches, (Action.deleteDead queue rows).Ends batch.exchanges batch.outcome)
    {statement : Statement} (other : statement ≠ sweepStatement queue rows) :
    Says (batches.flatMap BatchRun.exchanges ++ releasing (engine.lockId queue) released) statement reply ↔
      statement = unlockStatement (engine.lockId queue) ∧ lockReply released = reply := by
  rw [says_append, says_releasing, or_iff_right (says_batches (runs_within each) other)]

theorem says_no_tryLock (each : ∀ batch ∈ batches, (Action.deleteDead queue rows).Ends batch.exchanges batch.outcome) :
    ¬Says (batches.flatMap BatchRun.exchanges ++ releasing (engine.lockId queue) released)
      (tryLockStatement (engine.lockId queue)) reply := fun said =>
  tryLockStatement_ne_unlockStatement _ _ ((says_granted each (tryLockStatement_ne_sweepStatement _ _ _)).mp said).1

theorem says_release (each : ∀ batch ∈ batches, (Action.deleteDead queue rows).Ends batch.exchanges batch.outcome) :
    Says (batches.flatMap BatchRun.exchanges ++ releasing (engine.lockId queue) released)
      (unlockStatement (engine.lockId queue)) reply ↔ lockReply released = reply := by
  rw [says_granted each (unlockStatement_ne_sweepStatement _ _ _), and_iff_right rfl]

theorem says_close {statement : Statement} : ¬Says [⟨.close, ()⟩] statement reply :=
  fun said => says_nil ((says_quiet rfl).mp said)

end

namespace SweepRun

variable {result : Except Error SweepOutcome}

/-- A finished sweep closes the connection exactly where the session may still hold the lock. -/
theorem closing (run : SweepRun engine queue hint exchanges result) :
    Closing exchanges ↔ ¬Returnable (engine.lockId queue) (asked exchanges) exchanges := by
  cases run with
  | elsewhere =>
    refine iff_of_false ?_ fun kept => kept (.inl List.not_mem_nil)
    simp [Closing]
  | unanswered found reply =>
    rw [closing_underLock, returnable_underLock fun _ => says_close]
    refine iff_of_true List.mem_cons_self ?_
    rintro (refused | ⟨held, unlocked⟩)
    · cases reply.symm.trans refused
    · exact says_close unlocked
  | refused found reply =>
    rw [closing_underLock, returnable_underLock fun _ => says_nil]
    exact iff_of_false List.not_mem_nil fun kept => kept (.inl reply)
  | granted found reply batches each released =>
    rw [closing_underLock, closing_append, or_iff_right (closing_batches (runs_within each)), closing_releasing,
      returnable_underLock fun _ => says_no_tryLock each]
    simp only [says_release each, reply]
    cases lockReply released <;> simp

/-- The result of a finished sweep is told from the answers of the lock functions and from its batches. -/
theorem accounted (run : SweepRun engine queue hint exchanges result) :
    Accounted engine queue hint exchanges result := by
  cases run with
  | elsewhere =>
    exact ⟨fun _ => rfl, fun _ => rfl, fun said => (says_nil ((says_quiet rfl).mp said)).elim,
      fun said => (says_nil ((says_quiet rfl).mp said)).elim⟩
  | unanswered found reply =>
    exact ⟨fun unsent => absurd tryLock_asked unsent,
      fun missed => (nomatch reply.symm.trans ((missed_underLock fun _ => says_close).mp missed)), fun _ => rfl,
      fun said => nomatch reply.symm.trans ((says_tryLock says_close).mp said)⟩
  | refused found reply =>
    exact ⟨fun unsent => absurd tryLock_asked unsent, fun _ => rfl,
      fun said => (nomatch reply.symm.trans ((says_tryLock says_nil).mp said)),
      fun said => nomatch reply.symm.trans ((says_tryLock says_nil).mp said)⟩
  | granted found reply batches each released =>
    refine ⟨fun unsent => absurd tryLock_asked unsent,
      fun missed => (nomatch reply.symm.trans ((missed_underLock fun _ => says_no_tryLock each).mp missed)),
      fun said => (nomatch reply.symm.trans ((says_tryLock (says_no_tryLock each)).mp said)), fun _ => ?_⟩
    refine ⟨found, batches, released, rfl, fun batch member => ⟨each batch member, ?_⟩, ?_, rfl, ?_⟩
    · exact asked_batches (deleteDead_within.ends (each batch member))
    · rw [asked_underLock, asked_append, asked_releasing]
      exact congrArg (fun sent => _ :: (sent ++ _)) List.filterMap_flatMap
    · exact fun answers keeps start final outside answered => release_sent keeps each answered outside

end SweepRun

/-- The connection to the scripted server keeps the rules of the package. The last thing that a sweep sends over it, if it
had its lock, is the release or a rollback. -/
theorem granted_sweep_ends {start : Connection} (outside : start.depth = 0)
    (granted : Says ((engine.sweep Action.standalone queue hint).told Connection.answer start)
      (tryLockStatement (engine.lockId queue)) (some true)) :
    ∃ earlier, ((engine.sweep Action.standalone queue hint).run Connection.answer start).2.log =
        .query (unlockStatement (engine.lockId queue)) :: earlier ∨
      ((engine.sweep Action.standalone queue hint).run Connection.answer start).2.log =
        .control "ROLLBACK" :: earlier := by
  have run := sweep_runs ((engine.sweep Action.standalone queue hint).told_ends Connection.answer start)
  obtain ⟨_, _, _, _, _, _, _, last⟩ := run.accounted.swept granted
  rcases last _ Connection.answer_keeps start _ outside (Program.told_answered _ _ _) with
    ⟨earlier, released⟩ | ⟨_, _, earlier, undone⟩
  · exact ⟨earlier, .inl released⟩
  · exact ⟨earlier, .inr undone⟩

/-- A sweep that is cut short has the guard armed that gives up the lock, and the session may hold the lock. -/
theorem sweep_cut {pending : Request} (waits : (engine.sweep Action.standalone queue hint).Waits exchanges pending)
    (awaits : pending.awaits = true) :
    .abandon (engine.lockId queue) ∈ armed exchanges ∧
      ¬Returnable (engine.lockId queue) (asked exchanges ++ pending.statement?.toList) exchanges := by
  obtain ⟨later, rfl, place⟩ := sweep_waits waits awaits
  rcases place with ⟨rfl, rfl⟩ | ⟨found, ran, rfl, reply, batches, _⟩
  · refine ⟨List.mem_cons_self, ?_⟩
    rintro (unsent | missed | ⟨held, unlocked⟩)
    · exact unsent List.mem_cons_self
    · exact says_nil (says_opening.mp missed)
    · exact says_nil (says_opening.mp unlocked)
  · constructor
    · have same : armed (opening engine queue ++ ⟨.query (tryLockStatement (engine.lockId queue)), found⟩ :: ran) =
          [.abandon (engine.lockId queue), .freeLocal (sweepKey engine queue)] := guardsAfter_batches batches _
      exact same ▸ List.mem_cons_self
    · rintro (unsent | missed | ⟨held, unlocked⟩)
      · exact unsent List.mem_cons_self
      · rcases says_query.mp (says_opening.mp missed) with ⟨_, refused⟩ | said
        · exact nomatch reply.symm.trans refused
        · exact says_batches batches (tryLockStatement_ne_sweepStatement _ _ _) said
      · rcases says_query.mp (says_opening.mp unlocked) with ⟨same, _⟩ | said
        · exact tryLockStatement_ne_unlockStatement _ _ same.symm
        · exact says_batches batches (unlockStatement_ne_sweepStatement _ _ _) said

/-- A sweep closes its connection exactly where the session may still hold the lock, and its result is told from what
its statements found. Wherever it is cut short, the session may hold the lock, and the guard is armed that closes the
connection then. -/
theorem sweep_leaks_no_lock (engine : SweepEngine) (queue : QueueName) (hint : Nat) :
    (∀ exchanges result, (engine.sweep Action.standalone queue hint).Ends exchanges result →
      (Closing exchanges ↔ ¬Returnable (engine.lockId queue) (asked exchanges) exchanges) ∧
        Accounted engine queue hint exchanges result) ∧
    ∀ exchanges pending, (engine.sweep Action.standalone queue hint).Waits exchanges pending → pending.awaits = true →
      .abandon (engine.lockId queue) ∈ armed exchanges ∧
        ¬Returnable (engine.lockId queue) (asked exchanges ++ pending.statement?.toList) exchanges := by
  refine ⟨fun exchanges result ends => ?_, fun exchanges pending waits awaits => sweep_cut waits awaits⟩
  have run := sweep_runs ends
  exact ⟨run.closing, run.accounted⟩

/-- A sweep of one queue. -/
def queueSweep : Action (Except Error SweepOutcome) :=
  SweepEngine.sweep ⟨.default, ""⟩ Action.standalone ⟨"parcels", by decide +kernel⟩ 0

/-- The row of a lock function that says yes. -/
def yes : ResultSet := ⟨[[("", .value (.boolean true))]], 1⟩

/-- How often a text was sent. -/
def timesSent (text : Fragment) (log : List Message) : Nat :=
  log.countP fun
    | .query statement => statement.text == text
    | .control _ | .connect => false

/-- A server that fails a commit and the rollback behind it. -/
def failingCommit : Connection :=
  { Connection.fresh with replies := [some yes, some ⟨[], 100⟩, some yes], failing := ["COMMIT", "ROLLBACK"] }

/-- The commit of a batch fails, and so does the rollback that it owes. The lock was granted, but its release is never
sent; the connection is replaced instead. That a failed rollback keeps back the statement behind it is assumed of the
package in `Connection.KeepsTransactions.query_sent`. -/
theorem failed_rollback_withholds_release :
    (Connection.perform queueSweep failingCommit).1 = .error (.persistence (.failed "commit sweep batch failed")) ∧
      timesSent (tryLockStatement 0).text (Connection.perform queueSweep failingCommit).2.log = 1 ∧
      timesSent (unlockStatement 0).text (Connection.perform queueSweep failingCommit).2.log = 0 := by
  decide +kernel

end LeaseQueue.Sql
