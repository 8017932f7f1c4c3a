import LeaseQueue.Sql.Connection

/-!
What requests do to a connection: which transactions are open afterwards, and which rollbacks are owed for those that
were given up. The package that manages the transactions is no part of this library. What is assumed of it is put
together as `Connection.KeepsTransactions`, and the results that rest on it are stated under these rules.
-/
namespace LeaseQueue.Sql

/-- Whether an action can be cut short while it waits for the answer; the other requests are answered at once. -/
def Request.awaits : Request → Bool
  | .begin | .commit | .rollback | .query _ => true
  | .leave | .takeLocal _ | .freeLocal _ | .arm _ | .disarm | .close => false

namespace Connection

/-- Sending the owed rollbacks touches nothing but the log and the failures to come. -/
theorem settle_run (connection : Connection) :
    ∃ log failing, (settle connection).2 = { connection with owed := [], log := log, failing := failing } := by
  suffices sent : ∀ (owed : List String) (settled : Bool) (connection : Connection), ∃ log failing,
      (owed.foldlM (m := Talk) (fun settled text => return (← send text) && settled) settled connection).2 =
        { connection with log := log, failing := failing } from sent connection.owed true { connection with owed := [] }
  intro owed
  induction owed with
  | nil => exact fun _ connection => ⟨connection.log, connection.failing, rfl⟩
  | cons text rest ih =>
    intro settled connection
    obtain ⟨log, failing, same⟩ := ih _ (send text connection).2
    exact ⟨log, failing, same⟩

theorem begin_run (connection : Connection) :
    let settled := settle connection
    let begun := send (beginText settled.2.depth) settled.2
    begin connection =
      if settled.1 && begun.1 then (true, { begun.2 with depth := begun.2.depth + 1 }) else
        (false, (leave begun.2).2) := by
  intro settled begun
  change (if settled.1 && begun.1 then _ else _ : Talk Bool) begun.2 = _
  split <;> rfl

theorem finish_run (text : Nat → String) (connection : Connection) :
    let settled := settle connection
    let sent := send (text connection.depth) settled.2
    finish text connection =
      if connection.depth = 0 then (true, connection) else if settled.1 then
        if sent.1 then (true, { sent.2 with depth := connection.depth - 1 }) else (false, (leave sent.2).2)
      else (false, (leave settled.2).2) := by
  intro settled sent
  change (if connection.depth = 0 then _ else _ : Talk Bool) connection = _
  split
  · rfl
  · change (if settled.1 then _ else _ : Talk Bool) settled.2 = _
    split
    · change (if sent.1 then _ else _ : Talk Bool) sent.2 = _
      split <;> rfl
    · rfl

theorem query_run (statement : Statement) (connection : Connection) :
    let settled := settle connection
    query statement connection =
      if settled.1 then (settled.2.replies.head?.getD (some ⟨[], 0⟩), { settled.2 with
        log := .query statement :: settled.2.log, replies := settled.2.replies.tail })
      else (none, settled.2) := by
  intro settled
  change (if settled.1 then _ else _ : Talk (Option ResultSet)) settled.2 = _
  split <;> rfl

/-! Open transactions -/

theorem leave_depth (connection : Connection) : (leave connection).2.depth = connection.depth - 1 := by
  obtain ⟨replies, failing, log, _ | depth, owed, closing, locks⟩ := connection <;> rfl

/-- A transaction is open once it is begun, and otherwise the one around it is given up. -/
theorem begin_depth (connection : Connection) :
    (begin connection).2.depth = bif (begin connection).1 then connection.depth + 1 else connection.depth - 1 := by
  obtain ⟨log, failing, same⟩ := settle_run connection
  rw [begin_run]
  dsimp only
  rw [same]
  split
  · rfl
  · exact leave_depth _

/-- However a transaction ends, it is not open any more. -/
theorem finish_depth (text : Nat → String) (connection : Connection) :
    (finish text connection).2.depth = connection.depth - 1 := by
  obtain ⟨log, failing, same⟩ := settle_run connection
  rw [finish_run]
  dsimp only
  rw [same]
  split
  · change connection.depth = connection.depth - 1
    omega
  · split
    · split
      · rfl
      · exact leave_depth _
    · exact leave_depth _

theorem query_depth (statement : Statement) (connection : Connection) :
    (query statement connection).2.depth = connection.depth := by
  obtain ⟨log, failing, same⟩ := settle_run connection
  rw [query_run]
  dsimp only
  rw [same]
  split <;> rfl

/-! Owed rollbacks -/

theorem leave_owed {connection : Connection} (inside : connection.depth ≠ 0) :
    (leave connection).2.owed = connection.owed ++ [rollbackText connection.depth] := by
  obtain ⟨replies, failing, log, _ | depth, owed, closing, locks⟩ := connection
  · exact absurd rfl inside
  · rfl

/-- Beginning owes nothing, unless it fails inside another transaction. -/
theorem begin_owed (connection : Connection) :
    (begin connection).2.owed = if connection.depth = 0 then [] else
      bif (begin connection).1 then [] else [rollbackText connection.depth] := by
  obtain ⟨log, failing, same⟩ := settle_run connection
  rw [begin_run]
  dsimp only
  rw [same]
  by_cases outside : connection.depth = 0
  · rw [if_pos outside, outside]
    split <;> rfl
  · rw [if_neg outside]
    split
    · rfl
    · exact leave_owed outside

/-- A transaction that is given up at its end owes its rollback. -/
theorem finish_owed (text : Nat → String) (connection : Connection) (inside : connection.depth ≠ 0) :
    (finish text connection).2.owed =
      bif (finish text connection).1 then [] else [rollbackText connection.depth] := by
  obtain ⟨log, failing, same⟩ := settle_run connection
  rw [finish_run]
  dsimp only
  rw [if_neg inside, same]
  split
  · split
    · rfl
    · exact leave_owed inside
  · exact leave_owed inside

theorem query_owed (statement : Statement) (connection : Connection) : (query statement connection).2.owed = [] := by
  obtain ⟨log, failing, same⟩ := settle_run connection
  rw [query_run]
  dsimp only
  rw [same]
  split <;> rfl

/-- A statement is sent, unless an owed rollback fails before it. -/
theorem query_sent (statement : Statement) {connection : Connection} {text : String}
    (owing : connection.owed = [] ∨ connection.owed = [text]) :
    (∃ earlier, (query statement connection).2.log = .query statement :: earlier) ∨
      connection.owed = [text] ∧ (query statement connection).1 = none ∧
        (query statement connection).2.log = .control text :: connection.log := by
  rw [query_run]
  dsimp only
  split
  · exact .inl ⟨_, rfl⟩
  · rename_i failed
    obtain ⟨replies, failing, log, depth, _, closing, locks⟩ := connection
    rcases owing with rfl | rfl
    · exact absurd rfl failed
    · exact .inr ⟨rfl, rfl, rfl⟩

/-! The rules -/

/-- The innermost transaction is over, and if its end failed its rollback is owed. -/
structure EndsTransaction (ending : Talk Bool) : Prop where
  depth : ∀ connection, (ending connection).2.depth = connection.depth - 1
  owed : ∀ connection, connection.depth ≠ 0 →
    (ending connection).2.owed = bif (ending connection).1 then [] else [rollbackText connection.depth]

/-- Behind the outermost transaction nothing is open any more, and a rollback is owed only if its end failed. -/
theorem EndsTransaction.outermost {ending : Talk Bool} (ends : EndsTransaction ending) {connection : Connection}
    (inside : connection.depth = 1) {done : Bool} (answered : (ending connection).1 = done) :
    (ending connection).2.depth = 0 ∧ (ending connection).2.owed = bif done then [] else ["ROLLBACK"] := by
  refine ⟨by rw [ends.depth, inside], ?_⟩
  rw [ends.owed connection (by rw [inside]; exact Nat.one_ne_zero), answered, inside]
  rfl

/-- What is assumed of the package that manages the transactions of a connection, however it answers. -/
structure KeepsTransactions (answers : (request : Request) → Talk request.Answer) : Prop where
  /-- A transaction that cannot be begun inside another one takes that one with it. -/
  begin_depth : ∀ connection, (answers .begin connection).2.depth =
    bif (answers .begin connection).1 then connection.depth + 1 else connection.depth - 1
  /-- The rollback of a transaction that is given up in this way is owed. -/
  begin_owed : ∀ connection, (answers .begin connection).2.owed = if connection.depth = 0 then [] else
    bif (answers .begin connection).1 then [] else [rollbackText connection.depth]
  commit : EndsTransaction (answers .commit)
  rollback : EndsTransaction (answers .rollback)
  leave_depth : ∀ connection, (answers .leave connection).2.depth = connection.depth - 1
  query_depth : ∀ statement connection, (answers (.query statement) connection).2.depth = connection.depth
  query_owed : ∀ statement connection, (answers (.query statement) connection).2.owed = []
  /-- An owed rollback goes ahead of the next statement. Where it fails the statement fails unsent. -/
  query_sent : ∀ statement connection text, connection.owed = [] ∨ connection.owed = [text] →
    (∃ earlier, (answers (.query statement) connection).2.log = .query statement :: earlier) ∨
      connection.owed = [text] ∧ (answers (.query statement) connection).1 = none ∧
        (answers (.query statement) connection).2.log = .control text :: connection.log
  /-- Nothing else has to do with transactions. -/
  other_depth : ∀ request, request.awaits = false → request ≠ .leave →
    ∀ connection, (answers request connection).2.depth = connection.depth
  /-- What is answered at once sends nothing; a transaction that is left is rolled back later. -/
  quick_log : ∀ request, request.awaits = false → ∀ connection, (answers request connection).2.log = connection.log

theorem finish_ends (text : Nat → String) : EndsTransaction (finish text) where
  depth := finish_depth text
  owed := finish_owed text

theorem answer_other_depth (request : Request) (quick : request.awaits = false) (stays : request ≠ .leave)
    (connection : Connection) : (answer request connection).2.depth = connection.depth := by
  cases request with
  | leave => exact absurd rfl stays
  | takeLocal key | freeLocal key | arm guard | disarm | close => rfl
  | begin | commit | rollback | query statement => cases quick

theorem answer_log (request : Request) (quick : request.awaits = false) (connection : Connection) :
    (answer request connection).2.log = connection.log := by
  cases request with
  | leave =>
    obtain ⟨replies, failing, log, _ | depth, owed, closing, locks⟩ := connection <;> rfl
  | takeLocal key | freeLocal key | arm guard | disarm | close => rfl
  | begin | commit | rollback | query statement => cases quick

/-- The connection to the scripted server keeps the rules. -/
theorem answer_keeps : KeepsTransactions answer where
  begin_depth := begin_depth
  begin_owed := begin_owed
  commit := finish_ends commitText
  rollback := finish_ends rollbackText
  leave_depth := leave_depth
  query_depth := query_depth
  query_owed := query_owed
  query_sent statement _ _ := query_sent statement
  other_depth := answer_other_depth
  quick_log := answer_log

end Connection

end LeaseQueue.Sql
