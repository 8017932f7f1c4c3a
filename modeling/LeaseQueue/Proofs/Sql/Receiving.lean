import LeaseQueue.Proofs.Sql.Effects
import LeaseQueue.Proofs.Sweep.Composition
import LeaseQueue.Sql.Store

/-!
Receives that sweep on the way. However the sweep goes, it is over when the messages are leased: the lease runs in the
transaction of the receive itself, and what the receive answers is told from the lease and the commit alone.
-/
namespace LeaseQueue.Sql

/-- An action that ends all transactions that it begins, and no others. -/
def Balanced {α : Type} (action : Action α) : Prop := Leaves action fun _ _ _ => True

namespace Balanced

variable {α β : Type} {action : Action α} {next : α → Action β}

theorem of_leaves {post : α → List Statement → List Work → Prop} (leaves : Leaves action post) : Balanced action :=
  leaves.weaken fun _ _ _ _ => trivial

theorem pure (result : α) : Balanced (Pure.pure result) := Leaves.pure trivial

theorem bind (first : Balanced action) (rest : ∀ value, Balanced (next value)) : Balanced (action >>= next) :=
  Leaves.bind first fun value _ _ _ => rest value

theorem request {request : Request} (idle : ∀ reply, Ledger.Adds [⟨request, reply⟩] []) :
    Balanced (.ask request .done) := Leaves.request idle fun _ => trivial

theorem savepoint {body : Action (Except Error α)} (beginning committing : String) (balanced : Balanced body) :
    Balanced (Action.inSavepoint beginning committing body) :=
  Leaves.savepoint _ _ balanced (fun _ _ _ _ => trivial) fun _ _ _ _ _ => trivial

theorem composable : Composable (m := Action) fun _ => Balanced where
  pure := pure
  bind := bind

theorem fetchValue (context : String) (statement : Statement) (read : Cell → Option α) :
    Balanced (Action.fetchValue context statement read) :=
  bind (bind (bind (of_leaves (.query statement)) fun found => by cases found <;> exact pure _) fun _ => pure _)
    fun _ => pure _

end Balanced

/-- A target whose operations end their transactions. -/
structure BalancedTarget (target : SweepTarget Action) : Prop where
  takeLocal : ∀ key, Balanced (target.takeLocal key)
  freeLocal : ∀ key, Balanced (target.freeLocal key)
  tryAdvisory : ∀ lock, Balanced (target.tryAdvisory lock)
  unlock : ∀ lock, Balanced (target.unlock lock)
  abandon : ∀ lock, Balanced (target.abandon lock)
  guarded : ∀ {α : Type} (guard : Guard) {action : Action α}, Balanced action → Balanced (target.guarded guard action)
  deleteDead : ∀ queue limit, Balanced (target.deleteDead queue limit)

theorem BalancedTarget.has {target : SweepTarget Action} (balanced : BalancedTarget target) (lock : Int)
    (queue : QueueName) (rows : Nat) : TargetHas (fun _ => Balanced) target lock queue rows where
  takeLocal := balanced.takeLocal
  freeLocal := balanced.freeLocal
  tryAdvisory := balanced.tryAdvisory lock
  unlock := balanced.unlock lock
  abandon := balanced.abandon lock
  guarded := balanced.guarded
  deleteDead := balanced.deleteDead queue rows

namespace Action

theorem inline_balanced : BalancedTarget inline where
  takeLocal key := .request fun _ ledger => Ledger.add_nil.symm
  freeLocal key := .request fun _ ledger => Ledger.add_nil.symm
  tryAdvisory lock := .savepoint _ _ (.fetchValue _ _ _)
  unlock lock := .pure _
  abandon lock := .pure _
  guarded guard action within := by
    cases guard with
    | freeLocal key =>
      refine .bind (.request fun _ ledger => Ledger.add_nil.symm) fun _ => within.bind fun result => ?_
      exact .bind (.request fun _ ledger => Ledger.add_nil.symm) fun _ => .pure _
    | abandon lock => exact within
  deleteDead queue limit := .bind (.savepoint _ _ (.of_leaves (execute_leaves _ _))) fun _ => .pure _

/-- What a lease gives, told from the answer to its statement. -/
def leaseAnswer (queue : Queue) (found : Option ResultSet) : Except Error (List LeasedMessage) :=
  match found with
  | none => failed "receive messages failed"
  | some result => result.rows.mapM (readMessage queue)

/-- What a receive answers, told from the answers to its lease and its commit. -/
def receiveAnswer (queue : Queue) (found : Option ResultSet) (committed : Bool) : Except Error (List LeasedMessage) :=
  match leaseAnswer queue found with
  | .error failure => .error failure
  | .ok messages => if committed then .ok messages else failed "commit receive failed"

/-- How a receive ends: a lease that cannot be told is not committed. -/
def receiveEnding (queue : Queue) (found : Option ResultSet) (committed : Bool) : Exchange Request Request.Answer :=
  match leaseAnswer queue found with
  | .error _ => ⟨.leave, ()⟩
  | .ok _ => ⟨.commit, committed⟩

/-- A receive that fails is not committed. -/
theorem receiveEnding_drops {queue : Queue} {found : Option ResultSet} {committed : Bool} {failure : Error}
    (answered : receiveAnswer queue found committed = .error failure) (ledger : Ledger) :
    ledger.step (receiveEnding queue found committed) = ledger.drop := by
  unfold receiveAnswer at answered
  unfold receiveEnding
  cases leased : leaseAnswer queue found with
  | error _ => rfl
  | ok messages =>
    rw [leased] at answered
    cases committed with
    | false => rfl
    | true => cases answered

/-- A lease is undone with its transaction, whatever was swept before it. -/
theorem lease_undone {swept : Exchanges} {work : List Work} (adds : Ledger.Adds swept work) (lease : Statement)
    (found : Option ResultSet) {ending : Exchange Request Request.Answer}
    (dropped : ∀ ledger : Ledger, ledger.step ending = ledger.drop) :
    (Ledger.empty.after (⟨.begin, true⟩ :: (swept ++ [⟨.query lease, found⟩, ending]))).durable = [] := by
  have undone := (adds.append (.query lease found)).undone dropped .empty
  rw [List.append_assoc] at undone
  exact congrArg Ledger.durable undone

variable {engine : SweepEngine} {drawn : Bool} {queue : Queue} {options : ReceiveOptions} {exchanges : Exchanges}
variable {answer : Except Error (List LeasedMessage)}

/-- A receive that has begun sweeps, sends its lease and ends its transaction. -/
theorem receive_ends (ends : (receive engine drawn queue options).Ends (⟨.begin, true⟩ :: exchanges) answer) :
    ∃ visibility swept found committed, checkMillis (queue.visibilityOf options) = .ok visibility ∧
      exchanges = swept ++ [⟨.query (leaseStatement queue options visibility), found⟩,
        receiveEnding queue found committed] ∧
      (∃ outcome, (engine.sweepIf drawn inline queue.name options.limit).Ends swept outcome) ∧
      answer = receiveAnswer queue found committed := by
  unfold receive at ends
  split at ends
  · cases ends.1
  · cases valid : checkMillis (queue.visibilityOf options) with
    | error failure =>
      rw [valid] at ends
      cases ends.1
    | ok visibility =>
      rw [valid] at ends
      dsimp only at ends
      rw [inTransaction_eq] at ends
      rcases enclosed_ends ends with ⟨impossible, _⟩ | ⟨within, outcome, ending, same, ran, closed⟩
      · cases impossible
      · obtain rfl := List.cons_inj_right _ |>.mp same
        obtain ⟨counted, swept, _, rfl, sweeps, ran⟩ := Program.ends_bind.mp ran
        obtain ⟨leased, leases, rfl⟩ := Program.ends_bind_pure.mp ran
        obtain ⟨found, rfl, rfl⟩ := execute_ends leases
        have told : ((found.elim (failed "receive messages failed") .ok).bind fun result : ResultSet =>
            result.rows.mapM (readMessage queue)) = leaseAnswer queue found := by
          cases found <;> rfl
        rw [told] at closed
        suffices ∃ committed, ending = receiveEnding queue found committed ∧
            answer = receiveAnswer queue found committed by
          obtain ⟨committed, rfl, rfl⟩ := this
          exact ⟨visibility, swept, found, committed, rfl, List.append_assoc .., ⟨counted, sweeps⟩, rfl⟩
        unfold receiveEnding receiveAnswer
        cases leased : leaseAnswer queue found with
        | error failure =>
          rw [leased] at closed
          obtain ⟨⟨_, rfl⟩, rfl⟩ := closed
          exact ⟨true, rfl, rfl⟩
        | ok messages =>
          rw [leased] at closed
          exact closed

/-- Whatever comes of the sweep, a receive that has begun sends the same lease, and answers what its lease and its
commit say. If the sweep could begin a transaction wherever it asked for one, all of them are over when the lease is
sent, and nothing stays of a receive that fails. `Ledger.refuse` plays no part in that. -/
theorem receive_apart_from_sweep
    (ends : (receive engine drawn queue options).Ends (⟨.begin, true⟩ :: exchanges) answer) :
    ∃ visibility swept found committed, checkMillis (queue.visibilityOf options) = .ok visibility ∧
      exchanges = swept ++ [⟨.query (leaseStatement queue options visibility), found⟩,
        receiveEnding queue found committed] ∧
      (∃ outcome, (engine.sweepIf drawn inline queue.name options.limit).Ends swept outcome) ∧
      answer = receiveAnswer queue found committed ∧
      (Steady swept →
        (∃ work, Ledger.empty.after (⟨.begin, true⟩ :: swept) = ⟨[], [work]⟩) ∧
        ∀ failure, answer = .error failure → (Ledger.empty.after (⟨.begin, true⟩ :: exchanges)).durable = []) := by
  obtain ⟨visibility, swept, found, committed, valid, rfl, ⟨outcome, sweeps⟩, rfl⟩ := receive_ends ends
  refine ⟨visibility, swept, found, committed, valid, rfl, ⟨outcome, sweeps⟩, rfl, fun steady => ?_⟩
  have balanced : Balanced (engine.sweepIf drawn inline queue.name options.limit) :=
    (inline_balanced.has _ _ _).sweepIf Balanced.composable drawn
  obtain ⟨work, adds, _⟩ := balanced _ _ sweeps steady
  exact ⟨⟨work, adds _⟩, fun failure failed => lease_undone adds _ found (receiveEnding_drops failed)⟩

end Action

def letters : Queue := .named ⟨"letters", by decide +kernel⟩

/-- A receive of one message that sweeps before. -/
def sweptReceive : Action (Except Error (List LeasedMessage)) :=
  Action.receive ⟨.default, ""⟩ true letters ⟨1, none, none, [], none⟩

theorem sweptReceive_begins {σ : Type} (answers : (asked : Request) → StateM σ asked.Answer) (state : σ) :
    sweptReceive.told answers state =
      ⟨.begin, (answers .begin state).1⟩ :: (sweptReceive.told answers state).tail := by
  have span : checkMillis (letters.visibilityOf ⟨1, none, none, [], none⟩) = .ok (.bigInt 60000) := if_pos (by decide)
  unfold sweptReceive Action.receive
  rw [if_neg (by decide), span]
  rfl

def taken : ResultSet := ⟨[[("", .value (.boolean true))]], 1⟩

/-- The sweep takes its lock and fails to delete, and then the lease cannot be read. -/
def doubleFailure : Connection := { Connection.fresh with replies := [some taken, none, some ⟨[[]], 1⟩] }

theorem unreadable_lease_undone :
    Steady (sweptReceive.told Connection.answer doubleFailure).tail ∧
      (sweptReceive.run Connection.answer doubleFailure).1.isOk = false ∧
      (Ledger.empty.after (sweptReceive.told Connection.answer doubleFailure)).durable.length = 0 := by
  have steady : Steady (sweptReceive.told Connection.answer doubleFailure).tail := by decide +kernel
  have result : (sweptReceive.run Connection.answer doubleFailure).1.isOk = false := by decide +kernel
  refine ⟨steady, result, ?_⟩
  have ends := sweptReceive.told_ends Connection.answer doubleFailure
  rw [sweptReceive_begins] at ends ⊢
  cases outcome : (sweptReceive.run Connection.answer doubleFailure).1 with
  | ok messages => rw [outcome] at result; cases result
  | error failure =>
    obtain ⟨_, swept, _, _, _, split, _, _, given⟩ := Action.receive_apart_from_sweep ends
    rw [split, steady_append] at steady
    exact congrArg List.length ((given steady.1).2 failure outcome)

/-- The savepoint of the sweep's lock fails, and the transaction of the receive is given up with it, by
`Connection.KeepsTransactions.begin_depth` and `Ledger.refuse`. The lease stays though it cannot be read. -/
theorem refused_savepoint_keeps_lease :
    let failing : Connection := { Connection.fresh with replies := [some ⟨[[]], 1⟩], failing := ["SAVEPOINT"] }
    (Connection.perform sweptReceive failing).1.isOk = false ∧
      (Connection.perform sweptReceive failing).2.replies.length = 0 ∧
      (Ledger.empty.after (sweptReceive.told Connection.answer failing)).durable.length = 1 := by
  decide +kernel

end LeaseQueue.Sql
