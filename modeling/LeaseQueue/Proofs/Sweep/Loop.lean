import LeaseQueue.Proofs.Transcript
import LeaseQueue.Sweep.Engine
import Mathlib.Algebra.Ring.Nat

/-!
The loop of a sweep, whatever it sweeps. All that it does with its target is to ask for one batch after the other, so
over every target it is the same program, and what came of the batches says when it ends and with what.
-/
namespace LeaseQueue

theorem require_bind_eq_ok_iff {α : Type} {condition : Bool} {fault : ConfigFault} {next : Except Error α}
    {result : α} : (require condition fault >>= fun _ => next) = .ok result ↔ condition = true ∧ next = .ok result := by
  cases condition with
  | false => exact ⟨nofun, nofun⟩
  | true => exact ⟨fun same => ⟨rfl, same⟩, And.right⟩

/-- Under valid settings a batch has room for a row and a sweep for a batch. -/
theorem SweepSettings.positive_of_valid {settings : SweepSettings} (valid : settings.validate = .ok ()) :
    0 < settings.maxRows ∧ 0 < settings.maxIterations := by
  obtain ⟨rows, valid⟩ := require_bind_eq_ok_iff.mp valid
  obtain ⟨iterations, _⟩ := require_bind_eq_ok_iff.mp valid
  simp only [Bool.and_eq_true, decide_eq_true_eq] at rows iterations
  exact ⟨Nat.lt_of_lt_of_le (by decide) rows.1, iterations.1⟩

/-- Answers are handed to a sequence of programs one program after the other. -/
theorem Program.run_sequence {ρ : Type} {answer : ρ → Type} {α β : Type} {m : Type → Type} [Monad m] [LawfulMonad m]
    (reply : (asked : ρ) → m (answer asked)) (program : Program ρ answer α) (next : α → Program ρ answer β) :
    (program >>= next).run reply = program.run reply >>= fun result => (next result).run reply := by
  induction program with
  | done result => exact (pure_bind result fun result => (next result).run reply).symm
  | ask request rest ih =>
    refine Eq.trans ?_ (LawfulMonad.bind_assoc ..).symm
    exact bind_congr fun found => ih found

/-- A program that asks for batches, each of a queue and up to a number of rows. -/
abbrev Batching := Program (QueueName × Nat) fun _ => Except Error Nat

/-- Everyone gets the locks of this target, and its batches are left to others. -/
def Batching.target : SweepTarget Batching where
  takeLocal _ := pure true
  freeLocal _ := pure ()
  tryAdvisory _ := pure (.ok true)
  unlock _ := pure (.ok true)
  abandon _ := pure ()
  guarded _ action := action
  deleteDead queue limit := .ask (queue, limit) .done

/-- What a sweep makes of the rows and batches of its loop, if it came to run it. -/
def SweepOutcome.ofLoop : Option (Nat × Nat) → SweepOutcome
  | some (removed, iterations) => .completed removed iterations
  | none => .lockNotAcquired

namespace SweepEngine

variable {m : Type → Type} [Monad m] [LawfulMonad m]

theorem batches_eq_run (target : SweepTarget m) (queue : QueueName) (rows more : Nat) :
    batches target queue rows more =
      (batches Batching.target queue rows more).run fun asked => target.deleteDead asked.1 asked.2 := by
  induction more with
  | zero =>
    refine bind_congr fun swept => ?_
    cases swept <;> rfl
  | succ more ih =>
    refine bind_congr fun swept => ?_
    cases swept with
    | error failure => rfl
    | ok batch =>
      dsimp only [Program.bind]
      split
      · rfl
      · rw [ih]
        refine Eq.trans (bind_congr fun others => ?_) (Program.run_sequence ..).symm
        cases others <;> rfl

/-- The loop of a sweep. -/
def loop (engine : SweepEngine) (queue : QueueName) (hint : Nat) : Batching (Except Error (Nat × Nat)) :=
  batches Batching.target queue (max hint engine.settings.maxRows) (engine.settings.maxIterations - 1)

/-- A sweep of any target is the same loop under the lock of the queue. -/
theorem sweep_eq_run (engine : SweepEngine) (target : SweepTarget m) (queue : QueueName) (hint : Nat) :
    engine.sweep target queue hint = (do
      let result ← target.tryRunExclusive [] engine.manager (engine.lockId queue) fun _ =>
        (engine.loop queue hint).run fun asked => target.deleteDead asked.1 asked.2
      pure (result.map SweepOutcome.ofLoop)) := by
  unfold sweep loop
  rw [← batches_eq_run]
  refine bind_congr fun result => congrArg (fun give => pure (result.map give)) (funext fun totals => ?_)
  cases totals <;> rfl

/-- Batches after which a loop ends: those before the last one were full, and the last one was not or is the last that
may be run. -/
structure LoopEnds (rows cap : Nat) (full : List Nat) (last : Except Error Nat) : Prop where
  bounded : full.length < cap
  filled : ∀ batch ∈ full, rows ≤ batch
  ended : ∀ batch, last = .ok batch → rows ≤ batch → full.length + 1 = cap

section

variable {rows more batch : Nat} {full : List Nat} {last : Except Error Nat}

theorem loopEnds_one_iff : LoopEnds rows 1 full last ↔ full = [] := by
  constructor
  · intro ends
    exact List.length_eq_zero_iff.mp (Nat.lt_one_iff.mp ends.bounded)
  · rintro rfl
    exact ⟨Nat.one_pos, nofun, fun _ _ _ => rfl⟩

/-- Where more batches may be run, the first one is not full and is the last, or it is full and the others follow. -/
theorem loopEnds_succ_iff : LoopEnds rows (more + 2) full last ↔
    (full = [] ∧ ∀ batch, last = .ok batch → batch < rows) ∨
      ∃ batch others, full = batch :: others ∧ rows ≤ batch ∧ LoopEnds rows (more + 1) others last := by
  constructor
  · rintro ⟨bounded, filled, ended⟩
    cases full with
    | nil =>
      refine .inl ⟨rfl, fun batch same => Nat.not_le.mp fun more => ?_⟩
      cases ended batch same more
    | cons batch others =>
      obtain ⟨first, rest⟩ := List.forall_mem_cons.mp filled
      exact .inr ⟨batch, others, rfl, first, Nat.lt_of_succ_lt_succ bounded, rest,
        fun batch same more => Nat.succ.inj (ended batch same more)⟩
  · rintro (⟨rfl, short⟩ | ⟨batch, others, rfl, first, bounded, filled, ended⟩)
    · exact ⟨Nat.succ_pos _, nofun, fun batch same more => absurd more (Nat.not_le.mpr (short batch same))⟩
    · exact ⟨Nat.succ_lt_succ bounded, List.forall_mem_cons.mpr ⟨first, filled⟩,
        fun batch same more => congrArg (· + 1) (ended batch same more)⟩

end

section

variable {queue : QueueName} {rows more : Nat}
  {exchanges : List (Exchange (QueueName × Nat) fun _ => Except Error Nat)} {outcome : Except Error (Nat × Nat)}

theorem batches_zero_ends_iff : (batches Batching.target queue rows 0).Ends exchanges outcome ↔
    ∃ last, exchanges = [⟨(queue, rows), last⟩] ∧ outcome = last.map fun batch => (batch, 1) := by
  refine Program.ends_ask_bind.trans (exists_congr fun last => ?_)
  constructor
  · rintro ⟨later, rfl, ends⟩
    cases last <;> obtain ⟨rfl, rfl⟩ := ends <;> exact ⟨rfl, rfl⟩
  · rintro ⟨rfl, rfl⟩
    refine ⟨[], rfl, ?_⟩
    cases last <;> exact ⟨rfl, rfl⟩

theorem batches_succ_ends_iff : (batches Batching.target queue rows (more + 1)).Ends exchanges outcome ↔
    (∃ last, (∀ batch, last = .ok batch → batch < rows) ∧ exchanges = [⟨(queue, rows), last⟩] ∧
      outcome = last.map fun batch => (batch, 1)) ∨
    ∃ batch later others, rows ≤ batch ∧ exchanges = ⟨(queue, rows), .ok batch⟩ :: later ∧
      (batches Batching.target queue rows more).Ends later others ∧
      outcome = others.map fun total => (batch + total.1, total.2 + 1) := by
  refine Program.ends_ask_bind.trans ?_
  constructor
  · rintro ⟨reply, later, rfl, ends⟩
    cases reply with
    | error failure =>
      obtain ⟨rfl, rfl⟩ := ends
      exact .inl ⟨.error failure, nofun, rfl, rfl⟩
    | ok batch =>
      dsimp only at ends
      split at ends
      · rename_i short
        obtain ⟨rfl, rfl⟩ := ends
        refine .inl ⟨_, fun other same => ?_, rfl, rfl⟩
        cases same
        exact short
      · rename_i full
        obtain ⟨others, first, last, rfl, continues, ends⟩ := Program.ends_bind.mp ends
        refine .inr ⟨batch, first, others, Nat.not_lt.mp full, ?_⟩
        cases others <;> obtain ⟨rfl, rfl⟩ := ends <;> exact ⟨by rw [List.append_nil], continues, rfl⟩
  · rintro (⟨last, short, rfl, rfl⟩ | ⟨batch, later, others, full, rfl, continues, rfl⟩)
    · refine ⟨last, [], rfl, ?_⟩
      cases last with
      | error failure => exact ⟨rfl, rfl⟩
      | ok batch =>
        dsimp only
        rw [if_pos (short batch rfl)]
        exact ⟨rfl, rfl⟩
    · refine ⟨.ok batch, later, rfl, ?_⟩
      dsimp only
      rw [if_neg (Nat.not_lt.mpr full)]
      refine Program.ends_bind.mpr ⟨others, later, [], (List.append_nil later).symm, continues, ?_⟩
      cases others <;> exact ⟨rfl, rfl⟩

/-- The loop goes on exactly as long as its batches are full and may be run, and gives the sum and the number of its
batches, or the error of the last one. -/
theorem batches_ends_iff : (batches Batching.target queue rows more).Ends exchanges outcome ↔
    ∃ full last, LoopEnds rows (more + 1) full last ∧
      exchanges = (full.map Except.ok ++ [last]).map (⟨(queue, rows), ·⟩) ∧
      outcome = last.map fun batch => (full.sum + batch, full.length + 1) := by
  have alone (last : Except Error Nat) : (last.map fun batch => (batch, 1)) =
      last.map fun batch => (([] : List Nat).sum + batch, ([] : List Nat).length + 1) := by
    simp only [List.sum_nil, Nat.zero_add, List.length_nil]
  induction more generalizing exchanges outcome with
  | zero =>
    rw [batches_zero_ends_iff]
    constructor
    · rintro ⟨last, rfl, rfl⟩
      exact ⟨[], last, loopEnds_one_iff.mpr rfl, rfl, alone last⟩
    · rintro ⟨full, last, ends, rfl, rfl⟩
      obtain rfl := loopEnds_one_iff.mp ends
      exact ⟨last, rfl, (alone last).symm⟩
  | succ more ih =>
    rw [batches_succ_ends_iff]
    -- With a full batch before them, sums and numbers grow by that batch.
    have grown (batch : Nat) (others : List Nat) (last : Except Error Nat) :
        (last.map fun final => (others.sum + final, others.length + 1)).map
          (fun total : Nat × Nat => (batch + total.1, total.2 + 1)) =
        last.map fun final => ((batch :: others).sum + final, (batch :: others).length + 1) := by
      cases last with
      | error failure => rfl
      | ok final =>
        refine congrArg (fun sum => Except.ok (sum, others.length + 2)) ?_
        rw [List.sum_cons, Nat.add_assoc]
    constructor
    · rintro (⟨last, short, rfl, rfl⟩ | ⟨batch, later, inner, long, rfl, continues, rfl⟩)
      · exact ⟨[], last, loopEnds_succ_iff.mpr (.inl ⟨rfl, short⟩), rfl, alone last⟩
      · obtain ⟨others, last, ends, rfl, rfl⟩ := ih.mp continues
        exact ⟨batch :: others, last, loopEnds_succ_iff.mpr (.inr ⟨batch, others, rfl, long, ends⟩), rfl, grown ..⟩
    · rintro ⟨full, last, ends, rfl, rfl⟩
      rcases loopEnds_succ_iff.mp ends with ⟨rfl, short⟩ | ⟨batch, others, rfl, long, rest⟩
      · exact .inl ⟨last, short, rfl, (alone last).symm⟩
      · exact .inr ⟨batch, _, _, long, rfl, ih.mpr ⟨others, last, rest, rfl, rfl⟩, (grown ..).symm⟩

/-- The loop of valid settings has as many batches as these allow. -/
theorem loop_ends_iff {engine : SweepEngine} (valid : engine.settings.validate = .ok ()) {hint : Nat} :
    (engine.loop queue hint).Ends exchanges outcome ↔
      ∃ full last, LoopEnds (max hint engine.settings.maxRows) engine.settings.maxIterations full last ∧
        exchanges = (full.map Except.ok ++ [last]).map (⟨(queue, max hint engine.settings.maxRows), ·⟩) ∧
        outcome = last.map fun batch => (full.sum + batch, full.length + 1) := by
  have ends := @batches_ends_iff queue (max hint engine.settings.maxRows) (engine.settings.maxIterations - 1) exchanges
    outcome
  rw [Nat.sub_add_cancel (SweepSettings.positive_of_valid valid).2] at ends
  exact ends

end

end SweepEngine

end LeaseQueue
