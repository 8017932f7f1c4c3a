import LeaseQueue.Proofs.Running
import LeaseQueue.Queue.Basic

/-!
The names that a queue lets through. A queue has an accepted name, and what it lets a caller name by text, in the
metadata of a message or as a column to be read, is the column of a field that it declares.
-/
namespace LeaseQueue

theorem isNameSymbol_small {c : Char} (symbol : isNameSymbol c) : c.toNat < 128 := by
  simp only [isNameSymbol, Bool.or_eq_true, Bool.and_eq_true, decide_eq_true_eq, beq_iff_eq, Char.le_def,
    UInt32.le_iff_toNat_le] at symbol
  rcases symbol with ((⟨_, high⟩ | ⟨_, high⟩) | ⟨_, high⟩) | rfl
  · exact Nat.lt_of_le_of_lt high (by decide)
  · exact Nat.lt_of_le_of_lt high (by decide)
  · exact Nat.lt_of_le_of_lt high (by decide)
  · decide

theorem QueueName.symbols (name : QueueName) : name.text.toList.all isNameSymbol := by
  have accepted := name.accepted
  unfold queueNameFault? at accepted
  grind

theorem QueueName.filled (name : QueueName) : name.text.toList ≠ [] := by
  have accepted := name.accepted
  unfold queueNameFault? at accepted
  grind

theorem FieldName.symbols (field : FieldName) : field.text.toList.all isNameSymbol := by
  have accepted := field.accepted
  unfold fieldNameFault? at accepted
  grind

theorem FieldName.filled (field : FieldName) : field.text.toList ≠ [] := by
  have accepted := field.accepted
  unfold fieldNameFault? at accepted
  grind

namespace Queue

variable {queue : Queue} {column : String}

theorem column?_some {declared : MetaColumn} (found : queue.column? column = some declared) :
    declared ∈ queue.columns ∧ declared.field.column = column :=
  ⟨List.mem_of_find?_eq_some found, by simpa using List.find?_some found⟩

theorem checkValue_ok {value : Value} (accepted : queue.checkValue column value = .ok ()) :
    ∃ declared ∈ queue.columns, declared.field.column = column := by
  unfold checkValue at accepted
  cases known : queue.column? column with
  | none => rw [known] at accepted; cases accepted
  | some declared => exact ⟨declared, column?_some known⟩

/-- A message that is accepted has values for declared columns only. -/
theorem checkMessage_columns {message : NewMessage} (accepted : queue.checkMessage message = .ok ())
    {cell : String × Value} (member : cell ∈ message.metadata.toList) :
    ∃ declared ∈ queue.columns, declared.field.column = cell.1 := by
  have checked : message.metadata.toList.forM (fun cell => queue.checkValue cell.1 cell.2) = .ok () := by
    unfold checkMessage at accepted
    cases asked : message.attempts with
    | none => rw [asked] at accepted; exact accepted
    | some attempts =>
      rw [asked] at accepted
      dsimp only at accepted
      cases enough : require (decide (1 ≤ attempts)) (.attempts attempts) with
      | error failure => rw [enough] at accepted; cases accepted
      | ok _ => rw [enough] at accepted; exact accepted
  rcases forM_cases (fun cell : String × Value => queue.checkValue cell.1 cell.2) message.metadata.toList with
    ⟨each, _⟩ | ⟨_, _, failure, _, stopped⟩
  · exact checkValue_ok (each cell member)
  · cases stopped.symm.trans checked

end Queue

end LeaseQueue
