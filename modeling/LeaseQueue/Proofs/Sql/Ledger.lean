import LeaseQueue.Proofs.Sql.Talk
import LeaseQueue.Proofs.Transcript

/-!
What the exchanges over a connection leave in the database. A statement that was carried out belongs to the innermost
open transaction, and stays at once if there is none. A transaction that is committed hands its work on to the one
around it; one that is left, undone or not committed is undone with all it holds. This is what is assumed of the server
and of the package that manages the transactions. `Ledger.refuse` is the rule of that package which nothing in SQL
suggests.
-/
namespace LeaseQueue.Sql

abbrev Exchanges := List (Exchange Request Request.Answer)

/-- A statement that was carried out, with what it found. -/
structure Work where
  statement : Statement
  found : ResultSet

structure Ledger where
  /-- What stays whatever happens from here on. -/
  durable : List Work
  /-- What the open transactions hold, innermost first. -/
  layers : List (List Work)

namespace Ledger

def empty : Ledger := ⟨[], []⟩

/-- Adds work to the innermost transaction. -/
def add (ledger : Ledger) (work : List Work) : Ledger :=
  match ledger.layers with
  | [] => { ledger with durable := ledger.durable ++ work }
  | layer :: outer => { ledger with layers := (layer ++ work) :: outer }

/-- Opens a transaction. -/
def enter (ledger : Ledger) : Ledger := { ledger with layers := [] :: ledger.layers }

/-- Undoes the innermost transaction. -/
def drop (ledger : Ledger) : Ledger := { ledger with layers := ledger.layers.tail }

/-- Commits the innermost transaction. -/
def merge (ledger : Ledger) : Ledger := ledger.drop.add (ledger.layers.headD [])

/-- What is left when a transaction could not be begun. It is assumed of the package that manages the transactions that
it gives up the one around it as well, as in `Connection.KeepsTransactions.begin_depth`. -/
def refuse (ledger : Ledger) : Ledger := ledger.drop

/-- What an exchange leaves. -/
def step (ledger : Ledger) : Exchange Request Request.Answer → Ledger
  | ⟨.begin, begun⟩ => bif begun then ledger.enter else ledger.refuse
  | ⟨.commit, committed⟩ => bif committed then ledger.merge else ledger.drop
  | ⟨.rollback, _⟩ | ⟨.leave, _⟩ => ledger.drop
  | ⟨.query statement, found⟩ => ledger.add ((Option.toList found).map (Work.mk statement))
  | ⟨.takeLocal _, _⟩ | ⟨.freeLocal _, _⟩ | ⟨.arm _, _⟩ | ⟨.disarm, _⟩ | ⟨.close, _⟩ => ledger

def after (ledger : Ledger) (exchanges : Exchanges) : Ledger := exchanges.foldl step ledger

variable {ledger : Ledger} {first second : List Work} {exchanges later : Exchanges}

@[simp]
theorem add_nil : ledger.add [] = ledger := by
  obtain ⟨durable, _ | ⟨layer, outer⟩⟩ := ledger <;> simp [add]

@[simp]
theorem add_add : (ledger.add first).add second = ledger.add (first ++ second) := by
  obtain ⟨durable, _ | ⟨layer, outer⟩⟩ := ledger <;> simp [add]

theorem after_append : ledger.after (exchanges ++ later) = (ledger.after exchanges).after later := List.foldl_append

theorem add_layers (ledger : Ledger) (work : List Work) :
    (ledger.add work).layers.length = ledger.layers.length := by
  obtain ⟨durable, _ | ⟨layer, outer⟩⟩ := ledger <;> rfl

theorem merge_layers (ledger : Ledger) : ledger.merge.layers.length = ledger.layers.length - 1 :=
  (add_layers _ _).trans List.length_tail

/-- Whatever was open before, the exchanges add some work to the innermost transaction and leave the others alone. -/
def Adds (exchanges : Exchanges) (work : List Work) : Prop :=
  ∀ ledger : Ledger, ledger.after exchanges = ledger.add work

namespace Adds

theorem nil : Adds [] [] := fun _ => add_nil.symm

theorem query (statement : Statement) (found : Option ResultSet) :
    Adds [⟨.query statement, found⟩] (found.toList.map (Work.mk statement)) := fun _ => rfl

theorem append (earlier : Adds exchanges first) (next : Adds later second) :
    Adds (exchanges ++ later) (first ++ second) := by
  intro ledger
  rw [after_append, earlier, next, add_add]

/-- What a committed transaction held is held by the one around it. -/
theorem committed (within : Adds exchanges first) :
    Adds (⟨.begin, true⟩ :: (exchanges ++ [⟨.commit, true⟩])) first := by
  intro ledger
  change (ledger.enter.after (exchanges ++ _)) = _
  rw [after_append, within]
  rfl

/-- A transaction that ends in another way leaves nothing. -/
theorem undone (within : Adds exchanges first) {ending : Exchange Request Request.Answer}
    (dropped : ∀ ledger : Ledger, ledger.step ending = ledger.drop) :
    Adds (⟨.begin, true⟩ :: (exchanges ++ [ending])) [] := by
  intro ledger
  change (ledger.enter.after (exchanges ++ _)) = _
  rw [after_append, within, add_nil]
  exact dropped _

end Adds

end Ledger

def Request.statement? : Request → Option Statement
  | .query statement => some statement
  | _ => none

/-- The statements that were asked for, in order. -/
def asked (exchanges : Exchanges) : List Statement := exchanges.filterMap fun exchange => exchange.request.statement?

theorem asked_append (exchanges later : Exchanges) : asked (exchanges ++ later) = asked exchanges ++ asked later :=
  List.filterMap_append

/-- A transaction that could not be begun. -/
def refused : Exchange Request Request.Answer → Bool
  | ⟨.begin, begun⟩ => !begun
  | _ => false

/-- Every transaction that was asked for was begun. What `Ledger.refuse` says of the others does not matter then. -/
def Steady (exchanges : Exchanges) : Prop := ∀ exchange ∈ exchanges, refused exchange = false

instance (exchanges : Exchanges) : Decidable (Steady exchanges) := List.decidableBAll _ exchanges

/-- Where no transaction is asked for, none is refused. -/
theorem steady_of_requests {exchanges : Exchanges} (other : ∀ exchange ∈ exchanges, exchange.request ≠ .begin) :
    Steady exchanges := by
  rintro ⟨request, reply⟩ member
  cases request with
  | begin => exact absurd rfl (other _ member)
  | commit | rollback | leave | query | takeLocal | freeLocal | arm | disarm | close => rfl

theorem steady_append {exchanges later : Exchanges} : Steady (exchanges ++ later) ↔ Steady exchanges ∧ Steady later :=
  List.forall_mem_append

/-! A connection keeps count of the transactions that the ledger holds open. -/

namespace Connection.KeepsTransactions

variable {answers : (request : Request) → Talk request.Answer} {ledger : Ledger}

/-- The ledger has as many open transactions as the connection, before and after a request. -/
theorem answer_depth (keeps : KeepsTransactions answers) (request : Request) {connection : Connection}
    (same : ledger.layers.length = connection.depth) :
    (ledger.step ⟨request, (answers request connection).1⟩).layers.length =
      (answers request connection).2.depth := by
  cases request with
  | begin =>
    refine Eq.trans ?_ (keeps.begin_depth connection).symm
    change (bif (answers .begin connection).1 then ledger.enter else ledger.refuse).layers.length = _
    rw [← same]
    cases (answers .begin connection).1
    · exact List.length_tail
    · rfl
  | commit =>
    refine Eq.trans ?_ (keeps.commit.depth connection).symm
    change (bif (answers .commit connection).1 then ledger.merge else ledger.drop).layers.length = _
    rw [← same]
    cases (answers .commit connection).1
    · exact List.length_tail
    · exact ledger.merge_layers
  | rollback => exact (List.length_tail.trans (congrArg (· - 1) same)).trans (keeps.rollback.depth connection).symm
  | leave => exact (List.length_tail.trans (congrArg (· - 1) same)).trans (keeps.leave_depth connection).symm
  | query statement => exact ((ledger.add_layers _).trans same).trans (keeps.query_depth statement connection).symm
  | takeLocal key | freeLocal key | arm guard | disarm | close =>
    refine same.trans (keeps.other_depth _ ?_ ?_ connection).symm
    · rfl
    · nofun

/-- The ledger has as many open transactions as the connection, all along a run. -/
theorem answered_depth (keeps : KeepsTransactions answers) {exchanges : Exchanges} {first last : Connection}
    (answered : Program.Answered answers first exchanges last) (same : ledger.layers.length = first.depth) :
    (ledger.after exchanges).layers.length = last.depth := by
  induction exchanges generalizing first ledger with
  | nil =>
    obtain rfl : last = first := answered
    exact same
  | cons exchange later ih =>
    obtain ⟨request, reply⟩ := exchange
    obtain ⟨rfl, rest⟩ := answered
    exact ih rest (keeps.answer_depth request same)

/-- When an action has run, the ledger of its exchanges holds open what the connection does. -/
theorem told_depth (keeps : KeepsTransactions answers) {α : Type} (action : Action α) {connection : Connection}
    (same : ledger.layers.length = connection.depth) :
    (ledger.after (action.told answers connection)).layers.length = (action.run answers connection).2.depth :=
  keeps.answered_depth (action.told_answered answers connection) same

end Connection.KeepsTransactions

end LeaseQueue.Sql
