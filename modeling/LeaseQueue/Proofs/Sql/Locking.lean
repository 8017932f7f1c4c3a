import LeaseQueue.Proofs.Sql.Effects
import LeaseQueue.Sql.Sweep

/-!
Runs under an advisory lock of the session. The lock is asked for and released by statements; a connection over which
it may have stayed behind is closed, and a guard sees to that if the run is cut short.
-/
namespace LeaseQueue.Sql

variable {exchanges : Exchanges}

/-- Calls a function of the database with a lock. -/
def lockStatement (function : String) (lock : Int) : Statement :=
  ⟨sql s!"SELECT {function}(" ++ slot 1 ++ sql ")", [.bigInt lock]⟩

def tryLockStatement (lock : Int) : Statement := lockStatement "pg_try_advisory_lock" lock

def unlockStatement (lock : Int) : Statement := lockStatement "pg_advisory_unlock" lock

/-- What such a function said, if it did. -/
def lockReply (found : Option ResultSet) : Option Bool :=
  found.bind fun result => result.rows.head?.bind fun row => row.head?.bind fun cell => cell.2.bool?

theorem tryLockStatement_ne_unlockStatement (lock other : Int) : tryLockStatement lock ≠ unlockStatement other := by
  intro same
  have heads : some (Piece.text "SELECT pg_try_advisory_lock(") = some (.text "SELECT pg_advisory_unlock(") :=
    congrArg (fun statement => statement.text.head?) same
  exact absurd heads (by decide)

/-! What is exchanged over the connection -/

/-- A lock function was called and said this, or nothing. -/
def Says (exchanges : Exchanges) (statement : Statement) (reply : Option Bool) : Prop :=
  ∃ found : Option ResultSet, ⟨.query statement, found⟩ ∈ exchanges ∧ lockReply found = reply

section

variable {statement : Statement} {reply : Option Bool} {first later : Exchanges}

theorem says_append :
    Says (first ++ later) statement reply ↔ Says first statement reply ∨ Says later statement reply := by
  unfold Says
  simp only [List.mem_append, or_and_right, exists_or]

theorem says_query {other : Statement} {found : Option ResultSet} :
    Says (⟨.query other, found⟩ :: later) statement reply ↔
      (statement = other ∧ lockReply found = reply) ∨ Says later statement reply := by
  constructor
  · rintro ⟨given, member, said⟩
    rcases List.mem_cons.mp member with same | member
    · cases same
      exact .inl ⟨rfl, said⟩
    · exact .inr ⟨given, member, said⟩
  · rintro (⟨rfl, said⟩ | ⟨given, member, said⟩)
    · exact ⟨found, List.mem_cons_self, said⟩
    · exact ⟨given, List.mem_cons_of_mem _ member, said⟩

theorem says_quiet {exchange : Exchange Request Request.Answer} (quiet : exchange.request.statement? = none) :
    Says (exchange :: later) statement reply ↔ Says later statement reply := by
  constructor
  · rintro ⟨given, member, said⟩
    rcases List.mem_cons.mp member with rfl | member
    · cases quiet
    · exact ⟨given, member, said⟩
  · rintro ⟨given, member, said⟩
    exact ⟨given, List.mem_cons_of_mem _ member, said⟩

theorem says_nil : ¬Says [] statement reply := nofun

end

/-- The connection is given up. -/
def Closing (exchanges : Exchanges) : Prop := .close ∈ exchanges.map Exchange.request

theorem closing_append {first later : Exchanges} : Closing (first ++ later) ↔ Closing first ∨ Closing later := by
  simp [Closing, -List.mem_map]

/-- The guards after a request, last one first. -/
def guardsAfter (guards : List Guard) (exchange : Exchange Request Request.Answer) : List Guard :=
  match exchange.request with
  | .arm guard => guard :: guards
  | .disarm => guards.tail
  | _ => guards

/-- The guards that act if the action is cut short. -/
def armed (exchanges : Exchanges) : List Guard := exchanges.foldl guardsAfter []

theorem Connection.KeepsTransactions.answered_log {answers : (request : Request) → Talk request.Answer}
    (keeps : KeepsTransactions answers) (quick : ∀ exchange ∈ exchanges, exchange.request.awaits = false)
    {before after : Connection} (answered : Program.Answered answers before exchanges after) :
    after.log = before.log := by
  induction exchanges generalizing before with
  | nil =>
    obtain rfl : after = before := answered
    rfl
  | cons exchange later ih =>
    obtain ⟨request, reply⟩ := exchange
    obtain ⟨rfl, rest⟩ := answered
    obtain ⟨here, others⟩ := List.forall_mem_cons.mp quick
    exact (ih others rest).trans (keeps.quick_log request here before)

namespace Action

variable {pending : Request} {lock : Int}

theorem askLock_eq (function context : String) (lock : Int) :
    askLock function context lock = fetchValue context (lockStatement function lock) Cell.bool? := rfl

theorem askLock_ends {function context : String} {outcome : Except Error Bool}
    (ends : (askLock function context lock).Ends exchanges outcome) :
    ∃ found : Option ResultSet, exchanges = [⟨.query (lockStatement function lock), found⟩] ∧
      outcome = (lockReply found).elim (failed context) .ok := by
  rw [askLock_eq] at ends
  obtain ⟨_, fetches, rfl⟩ := Program.ends_bind_pure.mp ends
  obtain ⟨_, executes, rfl⟩ := Program.ends_bind_pure.mp fetches
  obtain ⟨found, rfl, rfl⟩ := execute_ends executes
  refine ⟨found, rfl, ?_⟩
  cases found with
  | none => rfl
  | some result =>
    change ((result.rows.head?.elim (failed context) .ok).bind fun row : Row =>
      (row.head?.bind fun cell => cell.2.bool?).elim (failed context) .ok) =
      (result.rows.head?.bind fun row => row.head?.bind fun cell => cell.2.bool?).elim (failed context) .ok
    cases result.rows.head? <;> rfl

theorem askLock_waits {function context : String} (waits : (askLock function context lock).Waits exchanges pending) :
    exchanges = [] ∧ pending = .query (lockStatement function lock) := by
  rw [askLock_eq] at waits
  rcases Program.waits_bind_pure.mp (Program.waits_bind_pure.mp waits) with waiting | ⟨found, _, _, impossible⟩
  · exact waiting
  · cases found <;> exact impossible.elim

theorem release_ends {α : Type} {result : Except Error α} {outcome : Except Error (Option α)}
    (ends : (standalone.release lock result).Ends exchanges outcome) :
    ∃ released : Option ResultSet, match lockReply released with
      | some _ => exchanges = [⟨.query (unlockStatement lock), released⟩] ∧ outcome = result.map some
      | none => exchanges = [⟨.query (unlockStatement lock), released⟩, ⟨.close, ()⟩] ∧
          outcome = result.bind fun _ => failed "advisory unlock failed" := by
  unfold LockTiers.release at ends
  obtain ⟨unlocked, _, later, rfl, asks, rest⟩ := Program.ends_bind.mp ends
  obtain ⟨released, rfl, rfl⟩ := askLock_ends asks
  refine ⟨released, ?_⟩
  cases reply : lockReply released with
  | some held =>
    rw [reply] at rest
    obtain ⟨rfl, rfl⟩ := rest
    exact ⟨rfl, rfl⟩
  | none =>
    rw [reply] at rest
    obtain ⟨_, _, rfl, closed⟩ := Program.ends_ask_bind.mp rest
    cases result <;> obtain ⟨rfl, rfl⟩ := closed <;> exact ⟨rfl, rfl⟩

/-- Nothing is cut short at a request that is answered at once. -/
theorem waits_past {α : Type} {request : Request} {rest : request.Answer → Action α} (quick : request.awaits = false)
    (waits : (Program.ask request .done >>= rest : Action α).Waits exchanges pending)
    (awaits : pending.awaits = true) :
    ∃ reply later, exchanges = ⟨request, reply⟩ :: later ∧ (rest reply).Waits later pending := by
  rcases Program.waits_ask_bind.mp waits with ⟨_, rfl⟩ | later
  · exact absurd awaits (quick ▸ nofun)
  · exact later

theorem release_waits {α : Type} {result : Except Error α}
    (waits : (standalone.release lock result).Waits exchanges pending) (awaits : pending.awaits = true) :
    exchanges = [] ∧ pending = .query (unlockStatement lock) := by
  unfold LockTiers.release at waits
  rcases Program.waits_bind.mp waits with asking | ⟨unlocked, _, _, rfl, _, rest⟩
  · exact askLock_waits asking
  · cases unlocked with
    | ok _ => exact rest.elim
    | error failure =>
      obtain ⟨_, _, _, impossible⟩ := waits_past rfl rest awaits
      cases result <;> exact impossible.elim

variable {α : Type} {body : Action (Except Error α)}

theorem underAdvisory_ends {outcome : Except Error (Option α)}
    (ends : (standalone.underAdvisory lock body).Ends exchanges outcome) :
    ∃ found middle, exchanges = ⟨.arm (.abandon lock), ()⟩ :: ⟨.query (tryLockStatement lock), found⟩ ::
        (middle ++ [⟨.disarm, ()⟩]) ∧ match lockReply found with
      | none => middle = [⟨.close, ()⟩] ∧ outcome = failed "try advisory lock failed"
      | some false => middle = [] ∧ outcome = .ok none
      | some true => ∃ result ran releasing, middle = ran ++ releasing ∧ body.Ends ran result ∧
          (standalone.release lock result).Ends releasing outcome := by
  unfold LockTiers.underAdvisory at ends
  obtain ⟨_, _, rfl, guarded⟩ := Program.ends_ask_bind.mp ends
  obtain ⟨outcome, within, _, rfl, ran, _, _, rfl, rfl, rfl⟩ := Program.ends_bind.mp guarded
  obtain ⟨taken, _, later, rfl, asks, rest⟩ := Program.ends_bind.mp ran
  obtain ⟨found, rfl, rfl⟩ := askLock_ends asks
  refine ⟨found, later, rfl, ?_⟩
  cases reply : lockReply found with
  | none =>
    rw [reply] at rest
    obtain ⟨_, _, rfl, rfl, rfl⟩ := Program.ends_ask_bind.mp rest
    exact ⟨rfl, rfl⟩
  | some granted =>
    rw [reply] at rest
    cases granted with
    | false =>
      obtain ⟨rfl, rfl⟩ := rest
      exact ⟨rfl, rfl⟩
    | true =>
      obtain ⟨result, inner, releasing, rfl, runs, releases⟩ := Program.ends_bind.mp rest
      exact ⟨result, inner, releasing, rfl, runs, releases⟩

theorem underAdvisory_waits (waits : (standalone.underAdvisory lock body).Waits exchanges pending)
    (awaits : pending.awaits = true) :
    ∃ later, exchanges = ⟨.arm (.abandon lock), ()⟩ :: later ∧
      ((later = [] ∧ pending = .query (tryLockStatement lock)) ∨
        ∃ found rest, later = ⟨.query (tryLockStatement lock), found⟩ :: rest ∧ lockReply found = some true ∧
          (body.Waits rest pending ∨ (∃ result, body.Ends rest result) ∧ pending = .query (unlockStatement lock))) := by
  unfold LockTiers.underAdvisory at waits
  obtain ⟨_, later, rfl, guarded⟩ := waits_past rfl waits awaits
  refine ⟨later, rfl, ?_⟩
  rcases Program.waits_bind.mp guarded with running | ⟨_, _, _, _, _, disarms⟩
  · rcases Program.waits_bind.mp running with asking | ⟨taken, _, rest, rfl, asks, running⟩
    · exact .inl (askLock_waits asking)
    · obtain ⟨found, rfl, rfl⟩ := askLock_ends asks
      cases reply : lockReply found with
      | none =>
        rw [reply] at running
        obtain ⟨_, _, _, impossible⟩ := waits_past rfl running awaits
        exact impossible.elim
      | some granted =>
        rw [reply] at running
        cases granted with
        | false => exact running.elim
        | true =>
          refine .inr ⟨found, rest, rfl, reply, ?_⟩
          rcases Program.waits_bind.mp running with inside | ⟨result, inner, _, rfl, runs, releasing⟩
          · exact .inl inside
          · obtain ⟨rfl, rfl⟩ := release_waits releasing awaits
            exact .inr ⟨⟨result, (List.append_nil inner).symm ▸ runs⟩, rfl⟩
  · obtain ⟨_, _, _, impossible⟩ := waits_past rfl disarms awaits
    exact impossible.elim

end Action

end LeaseQueue.Sql
