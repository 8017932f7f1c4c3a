import LeaseQueue.Proofs.Queue.Columns
import Mathlib.Logic.Basic

/-!
What a queue has against a message. The checks before a send find it, except for a delay that is too long for the
calendar's arithmetic, which the store that is sent to has to find.
-/
namespace LeaseQueue

/-- What a queue has against a message. -/
inductive Queue.Refusal (queue : Queue) (message : NewMessage) : ConfigFault → Prop
  | attempts {attempts : Int} (asked : message.attempts = some attempts) (few : attempts < 1) :
      Refusal queue message (.attempts attempts)
  | undeclared {column : String} {value : Value} (given : message.metadata[column]? = some value)
      (unknown : queue.column? column = none) : Refusal queue message (.undeclaredColumn queue.name.text column)
  | mistyped {column : String} {value : Value} {declared : MetaColumn}
      (given : message.metadata[column]? = some value) (known : queue.column? column = some declared)
      (differs : declared.type ≠ value.type) :
      Refusal queue message (.mistypedColumn queue.name.text column declared.type value.type)
  | delay (long : longestSpan < queue.delayOf message) :
      Refusal queue message (.durationOutOfRange (queue.delayOf message))

/-- The queue has nothing against any of the messages. -/
def Queue.AcceptsAll (queue : Queue) (messages : List NewMessage) : Prop :=
  ∀ message ∈ messages, ∀ fault, ¬ queue.Refusal message fault

namespace Queue

variable {queue : Queue} {message : NewMessage}

theorem checkValue_cases (queue : Queue) {column : String} {value : Value}
    (given : message.metadata[column]? = some value) :
    (queue.checkValue column value = .ok () ∧
      ∃ declared, queue.column? column = some declared ∧ declared.type = value.type) ∨
    ∃ fault, queue.Refusal message fault ∧ queue.checkValue column value = .error (.invalidConfig fault) := by
  unfold checkValue
  cases known : queue.column? column with
  | none => exact .inr ⟨_, .undeclared given known, rfl⟩
  | some declared =>
    by_cases same : declared.type = value.type
    · exact .inl ⟨if_pos (decide_eq_true same), declared, rfl, same⟩
    · exact .inr ⟨_, .mistyped given known same, if_neg (by simpa using same)⟩

theorem checkMessage_few {attempts : Int} (asked : message.attempts = some attempts) (few : attempts < 1) :
    queue.checkMessage message = .error (.invalidConfig (.attempts attempts)) := by
  unfold checkMessage require
  rw [asked]
  dsimp only
  rw [if_neg (by simpa using few)]
  rfl

theorem checkMessage_enough (enough : ∀ attempts, message.attempts = some attempts → 1 ≤ attempts) :
    queue.checkMessage message = message.metadata.toList.forM fun entry => queue.checkValue entry.1 entry.2 := by
  unfold checkMessage require
  cases asked : message.attempts with
  | none => rfl
  | some attempts =>
    dsimp only
    rw [if_pos (decide_eq_true (enough attempts asked))]
    rfl

/-- The checks of a message find all that a queue can have against it, but for a delay that is too long. -/
theorem checkMessage_cases (queue : Queue) (message : NewMessage) :
    (queue.checkMessage message = .ok () ∧
      ∀ fault, queue.Refusal message fault → longestSpan < queue.delayOf message) ∨
    ∃ fault, queue.Refusal message fault ∧ queue.checkMessage message = .error (.invalidConfig fault) := by
  by_cases enough : ∀ attempts, message.attempts = some attempts → 1 ≤ attempts
  · rw [checkMessage_enough enough]
    rcases forM_cases (fun entry => queue.checkValue entry.1 entry.2) message.metadata.toList with
      ⟨each, passed⟩ | ⟨⟨column, value⟩, member, failure, failed, stopped⟩
    · have fits {column : String} {value : Value} (given : message.metadata[column]? = some value) :
          ∃ declared, queue.column? column = some declared ∧ declared.type = value.type := by
        have valid := each (column, value) (Std.ExtTreeMap.mem_toList_iff_getElem?_eq_some.mpr given)
        rcases checkValue_cases queue given with ⟨_, fits⟩ | ⟨fault, _, refused⟩
        · exact fits
        · cases valid.symm.trans refused
      refine .inl ⟨passed, fun fault refusal => ?_⟩
      cases refusal with
      | attempts asked few => exact absurd (enough _ asked) (Int.not_le.mpr few)
      | undeclared given unknown =>
        obtain ⟨declared, known, _⟩ := fits given
        cases unknown.symm.trans known
      | mistyped given found differs =>
        obtain ⟨declared, known, same⟩ := fits given
        cases found.symm.trans known
        exact absurd same differs
      | delay long => exact long
    · have given := Std.ExtTreeMap.mem_toList_iff_getElem?_eq_some.mp member
      rcases checkValue_cases queue given with ⟨valid, _⟩ | ⟨fault, refusal, refused⟩
      · cases valid.symm.trans failed
      · cases failed.symm.trans refused
        exact .inr ⟨fault, refusal, stopped⟩
  · simp only [not_forall] at enough
    obtain ⟨attempts, asked, few⟩ := enough
    exact .inr ⟨_, .attempts asked (Int.not_le.mp few), checkMessage_few asked (Int.not_le.mp few)⟩

end Queue

end LeaseQueue
