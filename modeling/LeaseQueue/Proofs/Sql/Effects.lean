import LeaseQueue.Proofs.Sql.Ledger

/-!
What actions leave behind, put together from what their parts do.
-/
namespace LeaseQueue.Sql

variable {α β : Type}

namespace Action

variable {beginning committing : String} {body : Action (Except Error α)} {exchanges : Exchanges}
variable {answer : Except Error α}

/-- A transaction or savepoint; a body that fails is followed by the given request. -/
def enclosed (undo : Request) (beginning committing : String) (body : Action (Except Error α)) :
    Action (Except Error α) := do
  if ← begin then
    match ← body with
    | .error failure =>
      let _ ← (.ask undo .done : Action undo.Answer)
      pure (.error failure)
    | .ok result =>
      if ← commit then pure (.ok result) else pure (failed committing)
  else pure (failed beginning)

theorem inTransaction_eq : inTransaction beginning committing body = enclosed .leave beginning committing body := rfl

theorem inSavepoint_eq : inSavepoint beginning committing body = enclosed .rollback beginning committing body := rfl

/-- What is not begun does nothing. What is has the body between its begin and its end, which is a commit if the body
succeeded. -/
theorem enclosed_ends {undo : Request} (ends : (enclosed undo beginning committing body).Ends exchanges answer) :
    (exchanges = [⟨.begin, false⟩] ∧ answer = failed beginning) ∨
      ∃ within outcome ending, exchanges = ⟨.begin, true⟩ :: (within ++ [ending]) ∧ body.Ends within outcome ∧
        match outcome with
        | .error failure => (∃ reply, ending = ⟨undo, reply⟩) ∧ answer = .error failure
        | .ok value => ∃ committed : Bool, ending = ⟨.commit, committed⟩ ∧
            answer = if committed then .ok value else failed committing := by
  unfold enclosed at ends
  obtain ⟨begun, later, rfl, rest⟩ := Program.ends_ask_bind.mp ends
  cases begun with
  | false =>
    obtain ⟨rfl, rfl⟩ := rest
    exact .inl ⟨rfl, rfl⟩
  | true =>
    obtain ⟨outcome, within, closing, rfl, ran, rest⟩ := Program.ends_bind.mp rest
    refine .inr ⟨within, outcome, ?_⟩
    cases outcome with
    | error failure =>
      obtain ⟨reply, _, rfl, rfl, rfl⟩ := Program.ends_ask_bind.mp rest
      exact ⟨_, rfl, ran, ⟨reply, rfl⟩, rfl⟩
    | ok value =>
      obtain ⟨committed, _, rfl, closed⟩ := Program.ends_ask_bind.mp rest
      cases committed <;> obtain ⟨rfl, rfl⟩ := closed
      · exact ⟨_, rfl, ran, false, rfl, rfl⟩
      · exact ⟨_, rfl, ran, true, rfl, rfl⟩

end Action

/-- Where all transactions that it asks for are begun, the action adds some work to the one around it, and `post` holds
of its result, the statements that it asked for and that work. -/
def Leaves (action : Action α) (post : α → List Statement → List Work → Prop) : Prop :=
  ∀ exchanges result, action.Ends exchanges result → Steady exchanges →
    ∃ work, Ledger.Adds exchanges work ∧ post result (asked exchanges) work

namespace Leaves

variable {action : Action α} {next : α → Action β}
variable {post middle : α → List Statement → List Work → Prop} {goal : β → List Statement → List Work → Prop}

theorem weaken (leaves : Leaves action middle)
    (stronger : ∀ result asked work, middle result asked work → post result asked work) : Leaves action post := by
  intro exchanges result ends steady
  obtain ⟨work, adds, holds⟩ := leaves exchanges result ends steady
  exact ⟨work, adds, stronger _ _ _ holds⟩

theorem pure {result : α} (holds : post result [] []) : Leaves (Pure.pure result) post := by
  rintro _ _ ⟨rfl, rfl⟩ _
  exact ⟨[], .nil, holds⟩

theorem bind (first : Leaves action middle)
    (rest : ∀ value before done, middle value before done →
      Leaves (next value) fun result later more => goal result (before ++ later) (done ++ more)) :
    Leaves (action >>= next) goal := by
  intro exchanges result ends steady
  obtain ⟨value, earlier, later, rfl, ended, ends⟩ := Program.ends_bind.mp ends
  obtain ⟨calm, still⟩ := steady_append.mp steady
  obtain ⟨done, adds, holds⟩ := first earlier value ended calm
  obtain ⟨more, grows, reached⟩ := rest value _ done holds later result ends still
  exact ⟨done ++ more, adds.append grows, asked_append _ _ ▸ reached⟩

theorem query (statement : Statement) :
    Leaves (Action.query statement) fun found asked work =>
      asked = [statement] ∧ work = found.toList.map (Work.mk statement) := by
  intro exchanges found ends _
  obtain rfl := Program.ends_ask.mp ends
  exact ⟨_, .query statement found, rfl, rfl⟩

/-- A request that is neither a statement nor about a transaction leaves nothing. -/
theorem request {request : Request} (idle : ∀ reply, Ledger.Adds [⟨request, reply⟩] [])
    {post : request.Answer → List Statement → List Work → Prop}
    (holds : ∀ reply, post reply (asked [⟨request, reply⟩]) []) : Leaves (.ask request .done) post := by
  intro exchanges reply ends _
  obtain rfl := Program.ends_ask.mp ends
  exact ⟨[], idle reply, holds reply⟩

/-- A savepoint leaves what its body left if it succeeds, and nothing if it fails. -/
theorem savepoint {body : Action (Except Error α)} {middle post : Except Error α → List Statement → List Work → Prop}
    (beginning committing : String) (leaves : Leaves body middle)
    (kept : ∀ value asked work, middle (.ok value) asked work → post (.ok value) asked work)
    (lost : ∀ outcome failure asked work, middle outcome asked work → post (.error failure) asked []) :
    Leaves (Action.inSavepoint beginning committing body) post := by
  intro exchanges answer ends steady
  rw [Action.inSavepoint_eq] at ends
  rcases Action.enclosed_ends ends with ⟨rfl, _⟩ | ⟨within, outcome, ending, rfl, ran, ended⟩
  · exact absurd (steady _ (List.mem_singleton_self _)) nofun
  · have calm : Steady within := fun exchange member => steady exchange (by simp [member])
    obtain ⟨work, adds, holds⟩ := leaves within outcome ran calm
    have sent : asked (⟨.begin, true⟩ :: (within ++ [ending])) = asked within ++ asked [ending] := asked_append _ _
    cases outcome with
    | error failure =>
      obtain ⟨⟨undone, rfl⟩, rfl⟩ := ended
      refine ⟨[], adds.undone fun _ => rfl, ?_⟩
      rw [sent]
      exact (List.append_nil _).symm ▸ lost _ failure _ _ holds
    | ok value =>
      obtain ⟨committed, rfl, rfl⟩ := ended
      rw [sent, show asked [⟨.commit, committed⟩] = [] from rfl, List.append_nil]
      cases committed with
      | false => exact ⟨[], adds.undone fun _ => rfl, lost _ _ _ _ holds⟩
      | true => exact ⟨work, adds.committed, kept value _ _ holds⟩

end Leaves

namespace Action

theorem execute_within {allowed : Request → Prop} {statement : Statement} (asks : allowed (.query statement))
    (context : String) : (execute context statement).Within allowed := by
  refine Program.within_bind ⟨asks, fun _ => trivial⟩ fun found => ?_
  cases found <;> trivial

theorem execute_ends {context : String} {statement : Statement} {exchanges : Exchanges}
    {outcome : Except Error ResultSet} (ends : (execute context statement).Ends exchanges outcome) :
    ∃ found : Option ResultSet, exchanges = [⟨.query statement, found⟩] ∧
      outcome = found.elim (failed context) .ok := by
  obtain ⟨found, _, rfl, given⟩ := Program.ends_ask_bind.mp ends
  refine ⟨found, ?_⟩
  cases found <;> obtain ⟨rfl, rfl⟩ := given <;> exact ⟨rfl, rfl⟩

theorem execute_leaves (context : String) (statement : Statement) :
    Leaves (execute context statement) fun outcome asked work => asked = [statement] ∧
      ∀ result, outcome = .ok result → work = [⟨statement, result⟩] := by
  intro exchanges outcome ends _
  obtain ⟨found, rfl, rfl⟩ := execute_ends ends
  refine ⟨_, .query statement found, rfl, fun result same => ?_⟩
  cases found <;> cases same
  rfl

theorem fetchOne_leaves (context : String) (statement : Statement) :
    Leaves (fetchOne context statement) fun outcome asked work => asked = [statement] ∧
      ∀ row, outcome = .ok row → ∃ found, found.rows.head? = some row ∧ work = [⟨statement, found⟩] := by
  unfold fetchOne
  refine (execute_leaves context statement).bind ?_
  rintro outcome _ done ⟨rfl, worked⟩
  refine .pure ⟨rfl, fun row same => ?_⟩
  cases outcome with
  | error failure => cases same
  | ok result =>
    obtain rfl := worked result rfl
    refine ⟨result, ?_, rfl⟩
    change result.rows.head?.elim (failed context) .ok = .ok row at same
    cases head : result.rows.head? with
    | none => rw [head] at same; cases same
    | some first => rw [head] at same; cases same; rfl

end Action

end LeaseQueue.Sql
