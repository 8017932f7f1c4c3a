import LeaseQueue.Sql.Action

/-!
A connection to a scripted server. The server answers statements from a list of replies and fails the statements
around transactions by their first words; what it receives is logged. The connection keeps count of nested
transactions, and of the rollbacks it owes the server for transactions that were left: they are sent before the next
statement, or in the end. In this it follows the package that manages the transactions and is no part of the library.
-/
namespace LeaseQueue.Sql

/-- What a server receives. -/
inductive Message
  /-- A statement around a transaction. -/
  | control (text : String)
  | query (statement : Statement)
  /-- A new connection takes the place of a closed one. -/
  | connect

structure Connection where
  /-- The results of the queries to come; a query fails where there is none. Without any left, nothing is found. -/
  replies : List (Option ResultSet)
  /-- First words of control statements that fail. For each of them it is the next statement that has them. -/
  failing : List String
  /-- What the server received, last things first. -/
  log : List Message
  /-- Open transactions. -/
  depth : Nat
  /-- Rollbacks still to be sent. -/
  owed : List String
  /-- Whether the connection is to be replaced. -/
  closing : Bool
  localLocks : LocalLocks

namespace Connection

def fresh : Connection := ⟨[], [], [], 0, [], false, .none⟩

abbrev Talk := StateM Connection

def savepoint (number : Nat) : String := s!"_sqlx_savepoint_{number}"

def beginText : Nat → String
  | 0 => "BEGIN"
  | depth => s!"SAVEPOINT {savepoint depth}"

/-- What commits the innermost of some transactions. -/
def commitText : Nat → String
  | 0 | 1 => "COMMIT"
  | depth + 1 => s!"RELEASE SAVEPOINT {savepoint depth}"

def rollbackText : Nat → String
  | 0 | 1 => "ROLLBACK"
  | depth + 1 => s!"ROLLBACK TO SAVEPOINT {savepoint depth}"

/-- Sends a control statement and says whether it succeeded. -/
def send (text : String) : Talk Bool := do
  let connection ← get
  let (met, others) := connection.failing.partition fun start => start.toList.isPrefixOf text.toList
  set { connection with log := .control text :: connection.log, failing := others }
  pure met.isEmpty

/-- Sends the owed rollbacks and says whether all of them succeeded. -/
def settle : Talk Bool := do
  let owed := (← get).owed
  modify fun connection => { connection with owed := [] }
  owed.foldlM (fun settled text => return (← send text) && settled) true

/-- Gives up the innermost transaction; its rollback is owed from now on. -/
def leave : Talk Unit := modify fun connection =>
  match connection.depth with
  | 0 => connection
  | depth + 1 => { connection with depth := depth, owed := connection.owed ++ [rollbackText (depth + 1)] }

/-- Begins a transaction. If that fails inside another one, the other one is given up. Nothing in SQL asks for that; it
is what the package does. -/
def begin : Talk Bool := do
  let settled ← settle
  let begun ← send (beginText (← get).depth)
  if settled && begun then
    modify fun connection => { connection with depth := connection.depth + 1 }
    pure true
  else
    leave
    pure false

/-- Ends the innermost transaction with a control statement. If that fails, the transaction is given up. Without a
transaction there is nothing to send. -/
def finish (text : Nat → String) : Talk Bool := do
  let depth := (← get).depth
  if depth = 0 then return true
  if ← settle then
    if ← send (text depth) then
      modify fun connection => { connection with depth := depth - 1 }
      return true
  leave
  return false

/-- Sends a statement behind the owed rollbacks. It fails with them. -/
def query (statement : Statement) : Talk (Option ResultSet) := do
  if ← settle then
    let connection ← get
    set { connection with log := .query statement :: connection.log, replies := connection.replies.tail }
    pure (connection.replies.head?.getD (some ⟨[], 0⟩))
  else pure none

def onLocalLocks {α : Type} (step : LocalLocks → α × LocalLocks) : Talk α :=
  modifyGet fun connection =>
    let (answer, locks) := step connection.localLocks
    (answer, { connection with localLocks := locks })

/-- Answers a request. No action is cut short here, so guards have nothing to do. -/
def answer : (request : Request) → Talk request.Answer
  | .begin => begin
  | .commit => finish commitText
  | .rollback => finish rollbackText
  | .leave => leave
  | .query statement => query statement
  | .takeLocal key => onLocalLocks fun locks => locks.tryTake key
  | .freeLocal key => onLocalLocks fun locks => ((), locks.free key)
  | .arm _ | .disarm => pure ()
  | .close => modify fun connection => { connection with closing := true }

/-- Hands the connection back. Owed rollbacks are sent, and a connection that is to be closed, or on which one of
them failed, is replaced. -/
def release : Talk Unit := do
  let settled ← settle
  let connection ← get
  if connection.closing || !settled then
    set { connection with log := .connect :: connection.log, depth := 0, closing := false }

/-- Runs an action on the connection and hands it back. -/
def perform {α : Type} (action : Action α) : Talk α := do
  let result ← action.run answer
  release
  pure result

end Connection

end LeaseQueue.Sql
