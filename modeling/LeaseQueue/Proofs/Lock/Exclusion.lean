import LeaseQueue.Proofs.Lock.Holds
import Mathlib.Data.List.Nodup

/-!
Exclusive runs exclude each other, and a call that misses its lock leaves no trace.
-/
namespace LeaseQueue.Interleaving

variable {α : Type}

theorem Accounts.decided {key : LocalKey} {course : Course α (Except Error (Option α))} {guards : List Guard}
    (accounts : Accounts key course guards) (owes : owed course = 1) : Decided course := by
  unfold owed at owes
  split at owes
  · exact accounts.2.1
  · exact accounts.2.2.1
  · cases owes

/-- The call will not return a miss. -/
def Call.Decided (call : Call α) : Prop := ∀ course, call.rest = some course → Interleaving.Decided course

/-- The call of this number was made and will not return a miss. -/
def World.Decided (world : World α) (id : Nat) : Prop := ∃ call ∈ world.calls, call.id = id ∧ call.Decided

theorem Invariant.decided {world : World α} {call : Call α} (valid : Invariant world) (present : call ∈ world.calls)
    (owes : call.owed = 1) : call.Decided := by
  intro course rest
  exact ((valid.sound call present).accounts course rest).decided (Call.owed_eq rest ▸ owes)

theorem Call.owed_of_inBody {call : Call α} (running : call.InBody) : call.owed = 1 := by
  unfold Call.InBody Call.body? at running
  split at running
  · rename_i held next rest
    exact Call.owed_eq rest
  · cases running

theorem Call.not_over_of_inBody {call : Call α} (running : call.InBody) : ¬ call.Over := by
  intro ends
  have none := Call.owed_over ends
  rw [Call.owed_of_inBody running] at none
  cases none

theorem Call.Decided.go {call : Call α} {request : Request} {guards : List Guard}
    {next : request.Answer α → Course α (Except Error (Option α))} (decided : call.Decided)
    (asks : call.rest = some (.ask request next)) (answer : request.Answer α) :
    Call.Decided { call with guards := guards, rest := some (next answer) } := by
  intro course same
  cases same
  exact decided _ asks answer

theorem Call.Decided.cut {call : Call α} {guards : List Guard} :
    Call.Decided { call with guards := guards, rest := none : Call α } :=
  fun _ impossible => by cases impossible

theorem Call.Decided.guards {call : Call α} {guards : List Guard} (decided : call.Decided) :
    Call.Decided { call with guards := guards } := decided

/-- A call that goes on stays decided, and so do all others. -/
theorem World.Decided.advance {world : World α} {before after : List (Call α)} {call : Call α} {id : Nat}
    (decided : world.Decided id) (present : world.calls = before ++ call :: after) (guards : List Guard)
    (rest : Option (Course α (Except Error (Option α))))
    (kept : call.Decided → Call.Decided { call with guards := guards, rest := rest })
    (locks : AdvisoryLocks) (localLocks : LocalLocks) :
    World.Decided { world with
      locks := locks
      localLocks := localLocks
      calls := before ++ { call with guards := guards, rest := rest } :: after } id := by
  obtain ⟨found, member, number, sure⟩ := decided
  rw [present] at member
  rcases List.mem_append.mp member with early | late
  · exact ⟨found, List.mem_append_left _ early, number, sure⟩
  · rcases List.mem_cons.mp late with rfl | late
    · exact ⟨_, List.mem_append_right _ List.mem_cons_self, number, kept sure⟩
    · exact ⟨found, List.mem_append_right _ (List.mem_cons_of_mem _ late), number, sure⟩

theorem World.Decided.made {world : World α} {id new session : Nat} {outer : List Nat} {held : List LocalKey}
    {key : LocalKey} (decided : world.Decided id) : (world.made new outer session held key).Decided id := by
  obtain ⟨call, member, number, sure⟩ := decided
  exact ⟨call, List.mem_append_left _ member, number, sure⟩

theorem World.Decided.step {world next : World α} {actor : Option Nat} {id : Nat} (decided : world.Decided id)
    (step : Step world actor next) : next.Decided id := by
  cases step with
  | make fresh idle => exact decided.made
  | nest present running fresh lent => exact decided.made
  | takeLocal present asks => exact decided.advance present _ _ (fun sure => sure.go asks _) _ _
  | freeLocal present asks => exact decided.advance present _ _ (fun sure => sure.go asks _) _ _
  | tryAdvisory present asks => exact decided.advance present _ _ (fun sure => sure.go asks _) _ _
  | unlock present asks => exact decided.advance present _ _ (fun sure => sure.go asks _) _ _
  | abandon present asks => exact decided.advance present _ _ (fun sure => sure.go asks _) _ _
  | arm present asks => exact decided.advance present _ _ (fun sure => sure.go asks _) _ _
  | disarm present asks => exact decided.advance present _ _ (fun sure => sure.go asks _) _ _
  | finish present asks innermost result => exact decided.advance present _ _ (fun sure => sure.go asks _) _ _
  | cancelBody present asks innermost => exact decided.advance present _ _ (fun _ => .cut) _ _
  | cancelRelease present asks => exact decided.advance present _ _ (fun _ => .cut) _ _
  | guardLocal present dropped acts => exact decided.advance present _ _ (fun sure => sure.guards) _ _
  | guardAdvisory present dropped acts => exact decided.advance present _ _ (fun sure => sure.guards) _ _
  | takeDirect idle => exact decided
  | releaseDirect idle => exact decided
  | closeSession idle => exact decided

/-- A call that changes the holds of any session will not return a miss. -/
theorem Step.keeps_or_decided {world next : World α} {id : Nat} (step : Step world (some id) next)
    (valid : Invariant world) : next.locks = world.locks ∨ next.Decided id := by
  cases step with
  | make | nest | takeLocal | freeLocal | arm | disarm | finish | cancelBody | cancelRelease | guardLocal =>
    exact .inl rfl
  | @tryAdvisory before after call lock rest present asks =>
    have sound := valid.sound call (by simp [present])
    obtain ⟨rfl, ⟨_, sure, _⟩, _⟩ := sound.accounts _ asks
    cases taken : (world.locks.tryLock call.session call.key.lock).1 with
    | false => exact .inl (AdvisoryLocks.tryLock_missed taken)
    | true =>
      refine .inr ⟨_, List.mem_append_right _ List.mem_cons_self, rfl, fun course same => ?_⟩
      cases same
      exact sure
  | @unlock before after call lock rest present asks =>
    have here : world.Decided call.id :=
      ⟨call, by simp [present], rfl, valid.decided (by simp [present]) (Call.owed_eq asks)⟩
    exact .inr (here.step (.unlock present asks))
  | @abandon before after call lock rest present asks =>
    have sound := valid.sound call (by simp [present])
    exact (sound.accounts _ asks).elim
  | @guardAdvisory before after call lock guards present dropped acts =>
    have cut : call.Decided := fun _ impossible => by simp [dropped] at impossible
    have here : world.Decided call.id := ⟨call, by simp [present], rfl, cut⟩
    exact .inr (here.step (.guardAdvisory present dropped acts))

/-- A call has been in its body, or has changed a hold, at one of these transitions. -/
def Transition.Marks (transition : Transition α) (id : Nat) : Prop :=
  (∃ call ∈ transition.before.calls ++ transition.after.calls, call.id = id ∧ call.InBody) ∨
    (transition.actor = some id ∧ transition.after.locks ≠ transition.before.locks)

theorem Step.decided_of_marks {world next : World α} {actor : Option Nat} (step : Step world actor next)
    (valid : Invariant world) {id : Nat} (marks : Transition.Marks ⟨world, actor, next⟩ id) : next.Decided id := by
  rcases marks with ⟨call, member, number, running⟩ | ⟨own, changed⟩
  · rcases List.mem_append.mp member with earlier | later
    · have here : world.Decided id := ⟨call, earlier, number, valid.decided earlier (Call.owed_of_inBody running)⟩
      exact here.step step
    · exact ⟨call, later, number, (step.invariant valid).decided later (Call.owed_of_inBody running)⟩
  · cases own
    rcases step.keeps_or_decided valid with same | decided
    · exact absurd same changed
    · exact decided

theorem History.decided_of_marks {past : List (Transition α)} {world : World α} (history : History past world)
    {transition : Transition α} (member : transition ∈ past) {id : Nat} (marks : transition.Marks id) :
    world.Decided id := by
  induction history with
  | empty => cases member
  | step earlier last ih =>
    rcases List.mem_cons.mp member with rfl | before
    · exact last.decided_of_marks earlier.invariant marks
    · exact (ih before).step last

/-- A call that returned a miss was never in its body and never changed a hold. -/
theorem History.unmarked_of_missed {past : List (Transition α)} {world : World α} (history : History past world)
    {call : Call α} (present : call ∈ world.calls) (missed : call.returned? = some (.ok none))
    {transition : Transition α} (member : transition ∈ past) : ¬ transition.Marks call.id := by
  intro marks
  obtain ⟨found, there, number, sure⟩ := history.decided_of_marks member marks
  obtain rfl : found = call := List.inj_on_of_nodup_map history.invariant.distinct there present number
  unfold Call.returned? at missed
  split at missed
  · rename_i result rest
    exact sure _ rest (Option.some.inj missed)
  · cases missed

/-- Whatever the order of the steps of exclusive runs: two bodies that run under one lock are nested runs of one
session, and that session holds the lock; a call that missed its lock was never in its body and changed no hold; and
once all calls are over a session holds just what it has taken outside of them. -/
theorem exclusive_runs_exclude {past : List (Transition α)} {world : World α} (history : History past world) :
    (∀ first ∈ world.calls, ∀ second ∈ world.calls, first.InBody → second.InBody → first.id ≠ second.id →
      first.key.lock = second.key.lock → first.session = second.session ∧ first.Nested second) ∧
    (∀ call ∈ world.calls, call.InBody → 0 < world.locks.balance call.session call.key.lock) ∧
    (∀ call ∈ world.calls, call.returned? = some (.ok none) → ∀ transition ∈ past,
      (∀ same ∈ transition.before.calls ++ transition.after.calls, same.id = call.id → ¬ same.InBody) ∧
      (transition.actor = some call.id → ∀ session lock,
        transition.after.locks.balance session lock = transition.before.locks.balance session lock)) ∧
    ((∀ call ∈ world.calls, call.Over) →
      ∀ session lock, world.locks.balance session lock = world.direct session lock) := by
  have valid := history.invariant
  have held (call : Call α) (present : call ∈ world.calls) (running : call.InBody) :
      0 < world.locks.balance call.session call.key.lock := by
    obtain ⟨before, after, split⟩ := List.append_of_mem present
    have bound := valid.holds split
    rw [Call.owed_of_inBody running] at bound
    exact bound
  refine ⟨?_, held, ?_, ?_⟩
  · intro first hereFirst second hereSecond runningFirst runningSecond different lock
    have same : first.session = second.session := by
      have holds := held second hereSecond runningSecond
      rw [← lock] at holds
      exact AdvisoryLocks.session_unique (held first hereFirst runningFirst) holds
    refine ⟨same, ?_⟩
    rcases valid.nested first hereFirst second hereSecond same different with ends | ends | nested
    · exact absurd ends (Call.not_over_of_inBody runningFirst)
    · exact absurd ends (Call.not_over_of_inBody runningSecond)
    · exact nested
  · intro call present missed transition member
    have unmarked := history.unmarked_of_missed present missed member
    refine ⟨fun same there number running => unmarked (.inl ⟨same, there, number, running⟩), ?_⟩
    intro own session lock
    by_cases changed : transition.after.locks = transition.before.locks
    · rw [changed]
    · exact absurd (.inr ⟨own, changed⟩) unmarked
  · intro ends session lock
    exact valid.direct_of_idle (fun call present _ => ends call present) lock

/-- A world with the transitions that lead to it. -/
structure Reached (α : Type) where
  past : List (Transition α)
  world : World α
  history : History past world

def Reached.andThen (reached : Reached α) {actor : Option Nat} {next : World α} (step : Step reached.world actor next) :
    Reached α := ⟨_, next, reached.history.step step⟩

/-- A task is in the body of a run. -/
def oneRuns : Reached Unit :=
  let start : Reached Unit := ⟨[], .empty, .empty⟩
  start.andThen (@Step.make Unit start.world 0 0 ⟨"a", 5⟩ (fun _ absent => nomatch absent)
      (fun _ absent => nomatch absent))
    |>.andThen (@Step.takeLocal Unit _ [] [] _ _ _ rfl rfl)
    |>.andThen (@Step.arm Unit _ [] [] _ _ _ rfl rfl)
    |>.andThen (@Step.arm Unit _ [] [] _ _ _ rfl rfl)
    |>.andThen (@Step.tryAdvisory Unit _ [] [] _ _ _ rfl rfl)

theorem mem_oneRuns {call : Call Unit} (member : call ∈ oneRuns.world.calls) :
    call = oneRuns.world.calls.head (by decide) :=
  List.mem_singleton.mp member

/-- That body runs another one under the same lock, which skips the local tier. -/
def nestedRuns : Reached Unit :=
  oneRuns.andThen (@Step.nest Unit oneRuns.world 1 0 ⟨"a", 5⟩ (oneRuns.world.calls.head (by decide)) [⟨"a", 5⟩]
      (List.head_mem _) rfl (fun other member => by rw [mem_oneRuns member]; decide)
      (fun other member _ => by rw [mem_oneRuns member]; exact .inr List.mem_cons_self))
    |>.andThen (@Step.arm Unit _ [_] [] _ _ _ rfl rfl)
    |>.andThen (@Step.tryAdvisory Unit _ [_] [] _ _ _ rfl rfl)

theorem mem_nestedRuns {call : Call Unit} (member : call ∈ nestedRuns.world.calls) :
    call.id < 2 ∧ call.session = 0 := by
  rcases List.mem_pair.mp member with rfl | rfl
  · exact ⟨by decide, rfl⟩
  · exact ⟨by decide, rfl⟩

/-- Meanwhile a run of another manager and another session misses the lock. -/
def competitorMisses : Reached Unit :=
  nestedRuns.andThen (@Step.make Unit nestedRuns.world 2 1 ⟨"b", 5⟩
      (fun call member => Nat.ne_of_lt (mem_nestedRuns member).1)
      (fun call member own => by rw [(mem_nestedRuns member).2] at own; cases own))
    |>.andThen (@Step.takeLocal Unit _ [_, _] [] _ _ _ rfl rfl)
    |>.andThen (@Step.arm Unit _ [_, _] [] _ _ _ rfl rfl)
    |>.andThen (@Step.arm Unit _ [_, _] [] _ _ _ rfl rfl)
    |>.andThen (@Step.tryAdvisory Unit _ [_, _] [] _ _ _ rfl rfl)
    |>.andThen (@Step.disarm Unit _ [_, _] [] _ _ rfl rfl)
    |>.andThen (@Step.disarm Unit _ [_, _] [] _ _ rfl rfl)
    |>.andThen (@Step.freeLocal Unit _ [_, _] [] _ _ _ rfl rfl)

theorem competitor_misses_nested_runs :
    History competitorMisses.past competitorMisses.world ∧
    competitorMisses.world.calls.map (fun call => (call.body?, call.returned?)) =
      [(some [⟨"a", 5⟩], none), (some [⟨"a", 5⟩], none), (none, some (.ok none))] ∧
    (∀ first ∈ competitorMisses.world.calls, ∀ second ∈ competitorMisses.world.calls, first.InBody → second.InBody →
      first.id ≠ second.id → first.key.lock = second.key.lock → first.session = second.session) ∧
    (∀ call ∈ competitorMisses.world.calls, call.returned? = some (.ok none) → ∀ transition ∈ competitorMisses.past,
      transition.actor = some call.id → ∀ session lock,
        transition.after.locks.balance session lock = transition.before.locks.balance session lock) := by
  obtain ⟨exclude, _, traceless, _⟩ := exclusive_runs_exclude competitorMisses.history
  refine ⟨competitorMisses.history, rfl, ?_, ?_⟩
  · intro first hereFirst second hereSecond runningFirst runningSecond different lock
    exact (exclude first hereFirst second hereSecond runningFirst runningSecond different lock).1
  · intro call present missed transition member
    exact (traceless call present missed transition member).2

end LeaseQueue.Interleaving
