import LeaseQueue.Proofs.Sql.Locking
import Mathlib.Data.List.Basic

/-!
The batches of a sweep by itself. Each is a transaction around one statement, and what came of them adds up to the
result of the sweep.
-/
namespace LeaseQueue.Sql

variable {queue : QueueName} {rows more : Nat} {exchanges : Exchanges}

/-- What a batch asks for. -/
def InBatch (queue : QueueName) (rows : Nat) : Request → Prop
  | .begin | .commit | .rollback => True
  | .query statement => statement = sweepStatement queue rows
  | _ => False

theorem deleteDead_within : (Action.deleteDead queue rows).Within (InBatch queue rows) := by
  have asks : InBatch queue rows (.query (sweepStatement queue rows)) := rfl
  refine Program.within_bind (Program.within_bind ⟨trivial, fun _ => trivial⟩ fun begun => ?_) fun _ => trivial
  split
  · refine Program.within_bind (Action.execute_within asks _) fun outcome => ?_
    cases outcome with
    | error failure => exact ⟨trivial, fun _ => trivial⟩
    | ok result => exact ⟨trivial, fun committed => by cases committed <;> trivial⟩
  · trivial

theorem batches_within : (SweepEngine.batches Action.standalone queue rows more).Within (InBatch queue rows) := by
  induction more with
  | zero =>
    refine Program.within_bind deleteDead_within fun swept => ?_
    cases swept <;> trivial
  | succ more ih =>
    refine Program.within_bind deleteDead_within fun swept => ?_
    cases swept with
    | error failure => trivial
    | ok batch =>
      dsimp only
      split
      · trivial
      · exact Program.within_bind ih fun others => by cases others <;> trivial

/-- The rows removed by batches and their number, or the error of the first that failed. -/
def tally : List (Except Error Nat) → Except Error (Nat × Nat)
  | [] => .ok (0, 0)
  | .error failure :: _ => .error failure
  | .ok batch :: rest => (tally rest).map fun total => (batch + total.1, total.2 + 1)

/-- One batch of a sweep with what was exchanged over it and what came of it. -/
structure BatchRun where
  exchanges : Exchanges
  outcome : Except Error Nat

/-- Batches are run one after the other. -/
theorem batches_ends {outcome : Except Error (Nat × Nat)}
    (ends : (SweepEngine.batches Action.standalone queue rows more).Ends exchanges outcome) :
    ∃ runs : List BatchRun, exchanges = runs.flatMap BatchRun.exchanges ∧
      (∀ run ∈ runs, (Action.deleteDead queue rows).Ends run.exchanges run.outcome) ∧
      outcome = tally (runs.map BatchRun.outcome) := by
  induction more generalizing exchanges outcome with
  | zero =>
    obtain ⟨swept, first, _, rfl, deletes, ends⟩ := Program.ends_bind.mp ends
    refine ⟨[⟨first, swept⟩], ?_, List.forall_mem_singleton.mpr deletes, ?_⟩ <;>
      cases swept <;> obtain ⟨rfl, rfl⟩ := ends <;> simp [tally, Except.map]
  | succ more ih =>
    obtain ⟨swept, first, later, rfl, deletes, ends⟩ := Program.ends_bind.mp ends
    have only (failed : (tally [swept]) = outcome) (last : later = []) : ∃ runs : List BatchRun,
        first ++ later = runs.flatMap BatchRun.exchanges ∧
          (∀ run ∈ runs, (Action.deleteDead queue rows).Ends run.exchanges run.outcome) ∧
          outcome = tally (runs.map BatchRun.outcome) :=
      ⟨[⟨first, swept⟩], by simp [last], List.forall_mem_singleton.mpr deletes, failed.symm⟩
    cases swept with
    | error failure =>
      obtain ⟨last, rfl⟩ := ends
      exact only rfl last
    | ok batch =>
      dsimp only at ends
      split at ends
      · obtain ⟨last, rfl⟩ := ends
        exact only rfl last
      · obtain ⟨others, rest, _, rfl, continues, ends⟩ := Program.ends_bind.mp ends
        obtain ⟨runs, rfl, each, rfl⟩ := ih continues
        refine ⟨⟨first, .ok batch⟩ :: runs, ?_, List.forall_mem_cons.mpr ⟨deletes, each⟩, ?_⟩ <;>
          cases total : tally (runs.map BatchRun.outcome) <;> rw [total] at ends <;> obtain ⟨rfl, rfl⟩ := ends <;>
          simp [tally, total, Except.map]

/-- Batches ask for nothing else. -/
theorem runs_within {batches : List BatchRun}
    (each : ∀ batch ∈ batches, (Action.deleteDead queue rows).Ends batch.exchanges batch.outcome) :
    ∀ exchange ∈ batches.flatMap BatchRun.exchanges, InBatch queue rows exchange.request := by
  intro exchange member
  obtain ⟨batch, place, within⟩ := List.mem_flatMap.mp member
  exact deleteDead_within.ends (each batch place) exchange within

/-! Batches call no lock functions, arm no guards and close nothing. -/

theorem tryLockStatement_ne_sweepStatement (lock : Int) (queue : QueueName) (rows : Nat) :
    tryLockStatement lock ≠ sweepStatement queue rows := by
  intro same
  have heads : some (Piece.text "SELECT pg_try_advisory_lock(") = some (.text "delete from ") :=
    congrArg (fun statement => statement.text.head?) same
  exact absurd heads (by decide)

theorem unlockStatement_ne_sweepStatement (lock : Int) (queue : QueueName) (rows : Nat) :
    unlockStatement lock ≠ sweepStatement queue rows := by
  intro same
  have heads : some (Piece.text "SELECT pg_advisory_unlock(") = some (.text "delete from ") :=
    congrArg (fun statement => statement.text.head?) same
  exact absurd heads (by decide)

/-- Batches only call their own statement. -/
theorem says_batches {statement : Statement} {reply : Option Bool}
    (batches : ∀ exchange ∈ exchanges, InBatch queue rows exchange.request)
    (other : statement ≠ sweepStatement queue rows) : ¬Says exchanges statement reply := by
  rintro ⟨given, member, _⟩
  exact other (batches _ member)

theorem asked_batches (batches : ∀ exchange ∈ exchanges, InBatch queue rows exchange.request) :
    ∀ statement ∈ asked exchanges, statement = sweepStatement queue rows := by
  intro statement member
  obtain ⟨⟨request, reply⟩, place, asks⟩ := List.mem_filterMap.mp member
  have allowed := batches _ place
  cases request <;> cases asks
  exact allowed

theorem closing_batches (batches : ∀ exchange ∈ exchanges, InBatch queue rows exchange.request) :
    ¬Closing exchanges := by
  intro closes
  obtain ⟨exchange, member, closing⟩ := List.mem_map.mp closes
  exact (closing ▸ batches exchange member : InBatch queue rows .close)

theorem guardsAfter_batches (batches : ∀ exchange ∈ exchanges, InBatch queue rows exchange.request)
    (guards : List Guard) : exchanges.foldl guardsAfter guards = guards := by
  induction exchanges with
  | nil => rfl
  | cons exchange later ih =>
    obtain ⟨here, others⟩ := List.forall_mem_cons.mp batches
    have same : guardsAfter guards exchange = guards := by
      obtain ⟨request, reply⟩ := exchange
      cases request with
      | arm guard | disarm => exact here.elim
      | begin | commit | rollback | leave | query | takeLocal | freeLocal | close => rfl
    rw [List.foldl_cons, same, ih others]

/-! What batches owe -/

variable {answers : (request : Request) → Connection.Talk request.Answer} {before after : Connection}

/-- A batch owes a rollback only if it failed. -/
theorem deleteDead_owes (keeps : Connection.KeepsTransactions answers) {outcome : Except Error Nat}
    (ends : (Action.deleteDead queue rows).Ends exchanges outcome)
    (answered : Program.Answered answers before exchanges after) (outside : before.depth = 0) :
    after.depth = 0 ∧ (after.owed = [] ∨ after.owed = ["ROLLBACK"] ∧ ∃ failure, outcome = .error failure) := by
  obtain ⟨swept, saves, rfl⟩ := Program.ends_bind_pure.mp ends
  rw [Action.inSavepoint_eq] at saves
  rcases Action.enclosed_ends saves with ⟨rfl, _⟩ | ⟨within, result, ending, rfl, executes, closed⟩
  · obtain ⟨refused, rfl⟩ := answered
    refine ⟨?_, .inl ?_⟩
    · rw [keeps.begin_depth, refused, outside]
      rfl
    · rw [keeps.begin_owed, if_pos outside]
  · obtain ⟨found, rfl, rfl⟩ := Action.execute_ends executes
    obtain ⟨request, reply⟩ := ending
    obtain ⟨begun, _, ended, rfl⟩ := answered
    have inside : (answers (.query (sweepStatement queue rows)) (answers .begin before).2).2.depth = 1 := by
      rw [keeps.query_depth, keeps.begin_depth, begun, outside]
      rfl
    cases found with
    | none =>
      obtain ⟨⟨undone, same⟩, rfl⟩ := closed
      cases same
      obtain ⟨finished, owed⟩ := keeps.rollback.outermost inside ended
      cases undone
      · exact ⟨finished, .inr ⟨owed, _, rfl⟩⟩
      · exact ⟨finished, .inl owed⟩
    | some result =>
      obtain ⟨committed, same, rfl⟩ := closed
      cases same
      obtain ⟨finished, owed⟩ := keeps.commit.outermost inside ended
      cases committed
      · exact ⟨finished, .inr ⟨owed, _, rfl⟩⟩
      · exact ⟨finished, .inl owed⟩

/-- Batches owe a rollback only if the last of them failed. -/
theorem batches_owe (keeps : Connection.KeepsTransactions answers) {batches : List BatchRun}
    (each : ∀ batch ∈ batches, (Action.deleteDead queue rows).Ends batch.exchanges batch.outcome)
    (answered : Program.Answered answers before (batches.flatMap BatchRun.exchanges) after)
    (outside : before.depth = 0) (owing : before.owed = [] ∨ before.owed = ["ROLLBACK"]) :
    after.depth = 0 ∧ (after.owed = [] ∨ after.owed = ["ROLLBACK"] ∧
      (before.owed = ["ROLLBACK"] ∨ ∃ failure, tally (batches.map BatchRun.outcome) = .error failure)) := by
  induction batches generalizing before with
  | nil =>
    obtain rfl : after = before := answered
    exact ⟨outside, owing.imp_right fun owes => ⟨owes, .inl owes⟩⟩
  | cons batch rest ih =>
    obtain ⟨between, first, later⟩ := (Program.answered_append _).mp answered
    obtain ⟨here, others⟩ := List.forall_mem_cons.mp each
    obtain ⟨outside, owes⟩ := deleteDead_owes keeps here first outside
    obtain ⟨last, owed⟩ := ih others later outside (owes.imp_right And.left)
    refine ⟨last, owed.imp_right fun ⟨rollback, why⟩ => ⟨rollback, .inr ?_⟩⟩
    obtain ⟨exchanges, outcome⟩ := batch
    cases outcome with
    | error failure => exact ⟨failure, rfl⟩
    | ok count =>
      have clear : between.owed = [] := owes.resolve_right fun ⟨_, _, impossible⟩ => nomatch impossible
      obtain ⟨failure, failed⟩ := why.resolve_left fun owing => nomatch clear.symm.trans owing
      refine ⟨failure, ?_⟩
      change (tally (rest.map BatchRun.outcome)).map _ = _
      rw [failed]
      rfl

end LeaseQueue.Sql
