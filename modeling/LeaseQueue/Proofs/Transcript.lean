import LeaseQueue.Program

/-!
What a program asked and what it was answered. The exchanges of a run tell it whole, so that a statement about every
list of exchanges is one about every outcome there may be, and needs nobody who answers.
-/
namespace LeaseQueue

/-- A request with the answer that it got. -/
structure Exchange (ρ : Type) (answer : ρ → Type) where
  request : ρ
  reply : answer request

namespace Program

variable {ρ : Type} {answer : ρ → Type} {α β : Type}

/-- The program ends with a result after some exchanges. -/
def Ends : Program ρ answer α → List (Exchange ρ answer) → α → Prop
  | done given, exchanges, result => exchanges = [] ∧ result = given
  | ask request next, exchanges, result =>
    ∃ reply later, exchanges = ⟨request, reply⟩ :: later ∧ (next reply).Ends later result

/-- The program waits for the answer to a request after some exchanges. -/
def Waits : Program ρ answer α → List (Exchange ρ answer) → ρ → Prop
  | done _, _, _ => False
  | ask request next, exchanges, pending =>
    (exchanges = [] ∧ pending = request) ∨
      ∃ reply later, exchanges = ⟨request, reply⟩ :: later ∧ (next reply).Waits later pending

variable {program : Program ρ answer α} {next : α → Program ρ answer β}
variable {exchanges : List (Exchange ρ answer)} {request pending : ρ} {rest : answer request → Program ρ answer α}

/-- A program that asks once ends with the answer. -/
theorem ends_ask {result : answer request} :
    (ask request done : Program ρ answer _).Ends exchanges result ↔ exchanges = [⟨request, result⟩] := by
  constructor
  · rintro ⟨reply, _, rfl, rfl, rfl⟩
    rfl
  · rintro rfl
    exact ⟨result, [], rfl, rfl, rfl⟩

/-- A question that a program begins with is its first exchange. -/
theorem ends_ask_bind {result : α} :
    (ask request done >>= rest).Ends exchanges result ↔
      ∃ reply later, exchanges = ⟨request, reply⟩ :: later ∧ (rest reply).Ends later result := Iff.rfl

theorem waits_ask_bind :
    (ask request done >>= rest).Waits exchanges pending ↔ (exchanges = [] ∧ pending = request) ∨
      ∃ reply later, exchanges = ⟨request, reply⟩ :: later ∧ (rest reply).Waits later pending := Iff.rfl

/-- What is bound to a program begins when it has ended. -/
theorem ends_bind {result : β} :
    (program >>= next).Ends exchanges result ↔
      ∃ value first later, exchanges = first ++ later ∧ program.Ends first value ∧ (next value).Ends later result := by
  induction program generalizing exchanges with
  | done given =>
    constructor
    · exact fun ends => ⟨given, [], exchanges, rfl, ⟨rfl, rfl⟩, ends⟩
    · rintro ⟨_, _, later, rfl, ⟨rfl, rfl⟩, ends⟩
      exact ends
  | ask request rest ih =>
    constructor
    · rintro ⟨reply, after, rfl, ends⟩
      obtain ⟨value, first, later, rfl, done, ends⟩ := (ih reply).mp ends
      exact ⟨value, ⟨request, reply⟩ :: first, later, rfl, ⟨reply, first, rfl, done⟩, ends⟩
    · rintro ⟨value, _, later, rfl, ⟨reply, first, rfl, done⟩, ends⟩
      exact ⟨reply, first ++ later, rfl, (ih reply).mpr ⟨value, first, later, rfl, done, ends⟩⟩

theorem waits_bind :
    (program >>= next).Waits exchanges pending ↔
      program.Waits exchanges pending ∨ ∃ value first later,
        exchanges = first ++ later ∧ program.Ends first value ∧ (next value).Waits later pending := by
  induction program generalizing exchanges with
  | done given =>
    constructor
    · exact fun waits => .inr ⟨given, [], exchanges, rfl, ⟨rfl, rfl⟩, waits⟩
    · rintro (impossible | ⟨_, _, later, rfl, ⟨rfl, rfl⟩, waits⟩)
      · exact impossible.elim
      · exact waits
  | ask request rest ih =>
    constructor
    · rintro (waiting | ⟨reply, after, rfl, waits⟩)
      · exact .inl (.inl waiting)
      · rcases (ih reply).mp waits with waits | ⟨value, first, later, rfl, done, waits⟩
        · exact .inl (.inr ⟨reply, after, rfl, waits⟩)
        · exact .inr ⟨value, ⟨request, reply⟩ :: first, later, rfl, ⟨reply, first, rfl, done⟩, waits⟩
    · rintro ((waiting | ⟨reply, after, rfl, waits⟩) | ⟨value, _, later, rfl, ⟨reply, first, rfl, done⟩, waits⟩)
      · exact .inl waiting
      · exact .inr ⟨reply, after, rfl, (ih reply).mpr (.inl waits)⟩
      · exact .inr ⟨reply, first ++ later, rfl, (ih reply).mpr (.inr ⟨value, first, later, rfl, done, waits⟩)⟩

/-- Making something of the result asks nothing. -/
theorem ends_bind_pure {make : α → β} {result : β} :
    (program >>= fun value => pure (make value)).Ends exchanges result ↔
      ∃ value, program.Ends exchanges value ∧ result = make value := by
  rw [ends_bind]
  constructor
  · rintro ⟨value, first, _, rfl, ends, rfl, same⟩
    exact ⟨value, (List.append_nil first).symm ▸ ends, same⟩
  · rintro ⟨value, ends, same⟩
    exact ⟨value, exchanges, [], (List.append_nil exchanges).symm, ends, rfl, same⟩

theorem waits_bind_pure {make : α → β} :
    (program >>= fun value => pure (make value)).Waits exchanges pending ↔ program.Waits exchanges pending := by
  rw [waits_bind]
  exact or_iff_left fun ⟨_, _, _, _, _, impossible⟩ => impossible

/-! Programs that only ask for some things. -/

/-- Whatever it is answered, the program only makes requests that are allowed. -/
def Within (allowed : ρ → Prop) : Program ρ answer α → Prop
  | done _ => True
  | ask request next => allowed request ∧ ∀ reply, (next reply).Within allowed

section

variable {allowed : ρ → Prop}

theorem within_bind (first : program.Within allowed) (rest : ∀ value, (next value).Within allowed) :
    (program >>= next).Within allowed := by
  induction program with
  | done value => exact rest value
  | ask request continue_ ih => exact ⟨first.1, fun reply => ih reply (first.2 reply)⟩

theorem Within.ends (within : program.Within allowed) {result : α} (ends : program.Ends exchanges result) :
    ∀ exchange ∈ exchanges, allowed exchange.request := by
  induction program generalizing exchanges with
  | done value =>
    obtain ⟨rfl, _⟩ := ends
    exact nofun
  | ask request continue_ ih =>
    obtain ⟨reply, later, rfl, ends⟩ := ends
    exact List.forall_mem_cons.mpr ⟨within.1, ih reply (within.2 reply) ends⟩

theorem Within.waits (within : program.Within allowed) (waits : program.Waits exchanges pending) :
    (∀ exchange ∈ exchanges, allowed exchange.request) ∧ allowed pending := by
  induction program generalizing exchanges with
  | done value => exact waits.elim
  | ask request continue_ ih =>
    rcases waits with ⟨rfl, rfl⟩ | ⟨reply, later, rfl, waits⟩
    · exact ⟨nofun, within.1⟩
    · obtain ⟨past, now⟩ := ih reply (within.2 reply) waits
      exact ⟨List.forall_mem_cons.mpr ⟨within.1, past⟩, now⟩

end

/-! Runs against someone who answers. -/

section

variable {σ : Type} (answers : (asked : ρ) → StateM σ (answer asked))

/-- The answers of some exchanges are the ones given in turn from one state to another. -/
def Answered : σ → List (Exchange ρ answer) → σ → Prop
  | before, [], after => after = before
  | before, ⟨asked, reply⟩ :: later, after =>
    (answers asked before).1 = reply ∧ Answered (answers asked before).2 later after

theorem answered_append {before after : σ} {first later : List (Exchange ρ answer)} :
    Answered answers before (first ++ later) after ↔
      ∃ between, Answered answers before first between ∧ Answered answers between later after := by
  induction first generalizing before with
  | nil =>
    constructor
    · exact fun answered => ⟨before, rfl, answered⟩
    · rintro ⟨_, rfl, answered⟩
      exact answered
  | cons exchange rest ih =>
    constructor
    · rintro ⟨reply, answered⟩
      obtain ⟨between, earlier, answered⟩ := ih.mp answered
      exact ⟨between, ⟨reply, earlier⟩, answered⟩
    · rintro ⟨between, ⟨reply, earlier⟩, answered⟩
      exact ⟨reply, ih.mpr ⟨between, earlier, answered⟩⟩

/-- The exchanges of a run against given answers. -/
def told : Program ρ answer α → σ → List (Exchange ρ answer)
  | done _, _ => []
  | ask asked next, state =>
    let (reply, after) := answers asked state
    ⟨asked, reply⟩ :: (next reply).told after

/-- A run against given answers is one of the runs there may be. -/
theorem told_ends (program : Program ρ answer α) (state : σ) :
    program.Ends (program.told answers state) (program.run answers state).1 := by
  induction program generalizing state with
  | done result => exact ⟨rfl, rfl⟩
  | ask asked next ih => exact ⟨_, _, rfl, ih _ _⟩

theorem told_answered (program : Program ρ answer α) (state : σ) :
    Answered answers state (program.told answers state) (program.run answers state).2 := by
  induction program generalizing state with
  | done result => rfl
  | ask asked next ih => exact ⟨rfl, ih _ _⟩

end

end Program

end LeaseQueue
