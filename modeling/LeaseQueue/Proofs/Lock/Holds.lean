import LeaseQueue.Proofs.Lock.Accounting
import LeaseQueue.Proofs.Lock.Advisory
import Mathlib.Algebra.Ring.Nat

/-!
Who holds what while exclusive runs interleave: the holds of a session are those that its calls owe and those that it
has taken on its own. Every step keeps this count, and at any time the calls of one session stand in each other's bodies.
-/
namespace LeaseQueue.Interleaving

variable {α : Type}

/-- The holds that the call has to give back. -/
def Call.owed (call : Call α) : Nat :=
  match call.rest with
  | some course => Interleaving.owed course
  | none => call.guards.count (.abandon call.key.lock)

/-- What the call owes of one session's holds of one lock. -/
def Call.owes (call : Call α) (session : Nat) (lock : Int) : Nat :=
  if call.session = session ∧ call.key.lock = lock then call.owed else 0

/-- The call gives back what it owes and touches no other lock. -/
structure Call.Sound (call : Call α) : Prop where
  guards : ∀ lock, .abandon lock ∈ call.guards → lock = call.key.lock
  accounts : ∀ course, call.rest = some course → Accounts call.key course call.guards

/-- What all calls together owe. -/
def World.owes (world : World α) (session : Nat) (lock : Int) : Nat :=
  (world.calls.map fun call => call.owes session lock).sum

structure Invariant (world : World α) : Prop where
  positive : world.locks.Positive
  /-- Every hold is owed by a call or was taken outside of all runs. -/
  counted : ∀ session lock, world.locks.balance session lock = world.direct session lock + world.owes session lock
  sound : ∀ call ∈ world.calls, call.Sound
  /-- The calls of one session that are in progress stand in each other's bodies. -/
  nested : ∀ first ∈ world.calls, ∀ second ∈ world.calls, first.session = second.session → first.id ≠ second.id →
    first.Over ∨ second.Over ∨ first.Nested second
  distinct : (world.calls.map Call.id).Nodup

theorem invariant_empty : Invariant (World.empty : World α) where
  positive := AdvisoryLocks.positive_none
  counted session lock := by simp [World.empty, World.owes, AdvisoryLocks.balance_none]
  sound call present := by cases present
  nested first present := by cases present
  distinct := List.nodup_nil

theorem Call.owed_eq {call : Call α} {course : Course α (Except Error (Option α))} (rest : call.rest = some course) :
    call.owed = Interleaving.owed course := by simp [Call.owed, rest]

theorem Call.owed_dropped {call : Call α} (rest : call.rest = none) :
    call.owed = call.guards.count (.abandon call.key.lock) := by simp [Call.owed, rest]

theorem Call.owed_guards {call : Call α} {guards : List Guard} (rest : call.rest = none) :
    Call.owed { call with guards := guards } = guards.count (.abandon call.key.lock) := by simp [Call.owed, rest]

theorem Call.not_over_of_ask {call : Call α} {request : Request}
    {next : request.Answer α → Course α (Except Error (Option α))} (asks : call.rest = some (.ask request next)) :
    ¬ call.Over := by
  simp [Call.Over, Call.returned?, asks]

theorem Call.not_over_of_guard {call : Call α} {guard : Guard} {guards : List Guard} (dropped : call.rest = none)
    (acts : call.guards = guard :: guards) : ¬ call.Over := by
  simp [Call.Over, Call.returned?, dropped, acts]

theorem World.owes_ge {world : World α} {before after : List (Call α)} {call : Call α}
    (present : world.calls = before ++ call :: after) (session : Nat) (lock : Int) :
    call.owes session lock ≤ world.owes session lock := by
  simp only [World.owes, present, List.map_append, List.map_cons, List.sum_append, List.sum_cons]
  omega

/-- A call that owes its lock belongs to a session that holds it. -/
theorem Invariant.holds {world : World α} {before after : List (Call α)} {call : Call α} (valid : Invariant world)
    (present : world.calls = before ++ call :: after) :
    call.owed ≤ world.locks.balance call.session call.key.lock := by
  have total := valid.counted call.session call.key.lock
  have part := World.owes_ge present call.session call.key.lock
  simp only [Call.owes, and_self, if_true] at part
  omega

/-- One call goes on, and the locks change by what it owes more or less than before. -/
theorem Invariant.advance {world : World α} {before after : List (Call α)} {call : Call α} (valid : Invariant world)
    (present : world.calls = before ++ call :: after) {locks : AdvisoryLocks} (localLocks : LocalLocks)
    (guards : List Guard) (rest : Option (Course α (Except Error (Option α))))
    (positive : locks.Positive) (ends : ¬ call.Over)
    (sound : Call.Sound { call with guards := guards, rest := rest })
    (counted : ∀ session lock, locks.balance session lock + call.owes session lock =
      world.locks.balance session lock + { call with guards := guards, rest := rest : Call α }.owes session lock) :
    Invariant { world with
      locks := locks
      localLocks := localLocks
      calls := before ++ { call with guards := guards, rest := rest } :: after } := by
  have member (other : Call α) (found : other ∈ before ∨ other ∈ after) : other ∈ world.calls := by
    rw [present]
    rcases found with early | late
    · exact List.mem_append_left _ early
    · exact List.mem_append_right _ (List.mem_cons_of_mem _ late)
  have here : call ∈ world.calls := by simp [present]
  refine ⟨positive, ?_, ?_, ?_, by simpa [present] using valid.distinct⟩
  · intro session lock
    have total := valid.counted session lock
    have change := counted session lock
    simp only [World.owes, present, List.map_append, List.map_cons, List.sum_append, List.sum_cons] at total ⊢
    omega
  · intro other found
    rcases List.mem_append.mp found with early | late
    · exact valid.sound other (member other (.inl early))
    · rcases List.mem_cons.mp late with same | late
      · exact same ▸ sound
      · exact valid.sound other (member other (.inr late))
  · have old (other : Call α) (found : other ∈ before ++ { call with guards := guards, rest := rest } :: after) :
        other ∈ world.calls ∨ other = { call with guards := guards, rest := rest } := by
      rcases List.mem_append.mp found with early | late
      · exact .inl (member other (.inl early))
      · rcases List.mem_cons.mp late with same | late
        · exact .inr same
        · exact .inl (member other (.inr late))
    intro first foundFirst second foundSecond session different
    rcases old first foundFirst with first' | rfl
    · rcases old second foundSecond with second' | rfl
      · exact valid.nested first first' second second' session different
      · rcases valid.nested first first' call here session different with ended | ended | nested
        · exact .inl ended
        · exact absurd ended ends
        · exact .inr (.inr nested)
    · rcases old second foundSecond with second' | rfl
      · rcases valid.nested call here second second' session different with ended | ended | nested
        · exact absurd ended ends
        · exact .inr (.inl ended)
        · exact .inr (.inr nested)
      · exact absurd rfl different

/-- A step of a call that leaves the advisory locks and what it owes alone. -/
theorem Invariant.keep {world : World α} {before after : List (Call α)} {call : Call α} (valid : Invariant world)
    (present : world.calls = before ++ call :: after) (localLocks : LocalLocks) (guards : List Guard)
    (rest : Option (Course α (Except Error (Option α)))) (ends : ¬ call.Over)
    (sound : Call.Sound { call with guards := guards, rest := rest })
    (same : call.owed = { call with guards := guards, rest := rest : Call α }.owed) :
    Invariant { world with
      localLocks := localLocks
      calls := before ++ { call with guards := guards, rest := rest } :: after } := by
  apply valid.advance present localLocks guards rest valid.positive ends sound
  intro session lock
  simp only [Call.owes, same]

/-- A step of a call that releases its lock once, which it owes no longer. -/
theorem Invariant.release {world : World α} {before after : List (Call α)} {call : Call α} (valid : Invariant world)
    (present : world.calls = before ++ call :: after) (guards : List Guard)
    (rest : Option (Course α (Except Error (Option α)))) (ends : ¬ call.Over)
    (sound : Call.Sound { call with guards := guards, rest := rest })
    (less : call.owed = { call with guards := guards, rest := rest : Call α }.owed + 1) :
    Invariant { world with
      locks := (world.locks.unlock call.session call.key.lock).2
      calls := before ++ { call with guards := guards, rest := rest } :: after } := by
  apply valid.advance present world.localLocks guards rest valid.positive.unlock ends sound
  intro session lock
  have held := valid.holds present
  rw [AdvisoryLocks.balance_unlock valid.positive]
  by_cases own : call.session = session ∧ call.key.lock = lock
  · obtain ⟨rfl, rfl⟩ := own
    simp only [Call.owes, and_self, if_true]
    omega
  · simp [Call.owes, own]

/-- A new call owes nothing. The calls in progress of its session stand around it. -/
theorem Invariant.made {world : World α} (valid : Invariant world) (id : Nat) (outer : List Nat) (session : Nat)
    (held : List LocalKey) (key : LocalKey) (fresh : ∀ call ∈ world.calls, call.id ≠ id)
    (lent : ∀ other ∈ world.calls, other.session = session → other.Over ∨ other.id ∈ outer) :
    Invariant (world.made id outer session held key) := by
  refine ⟨valid.positive, ?_, ?_, ?_, ?_⟩
  · intro other lock
    have nothing : Call.owes ⟨id, outer, session, key, [], some (exclusive (α := α) held key)⟩ other lock = 0 := by
      simp [Call.owes, Call.owed, owed_exclusive]
    have total := valid.counted other lock
    simp only [World.made, World.owes, List.map_append, List.sum_append, List.map_cons, List.map_nil,
      List.sum_cons, List.sum_nil, nothing] at total ⊢
    exact total
  · intro call found
    rcases List.mem_append.mp found with old | new
    · exact valid.sound call old
    · cases List.mem_singleton.mp new
      refine ⟨fun lock guard => (by cases guard), fun course same => ?_⟩
      cases same
      exact accounts_exclusive held key
  · intro first foundFirst second foundSecond same different
    rcases List.mem_append.mp foundFirst with oldFirst | new
    · rcases List.mem_append.mp foundSecond with oldSecond | new
      · exact valid.nested first oldFirst second oldSecond same different
      · cases List.mem_singleton.mp new
        rcases lent first oldFirst same with ended | around
        · exact .inl ended
        · exact .inr (.inr (.inl around))
    · cases List.mem_singleton.mp new
      rcases List.mem_append.mp foundSecond with oldSecond | new
      · rcases lent second oldSecond same.symm with ended | around
        · exact .inr (.inl ended)
        · exact .inr (.inr (.inr around))
      · cases List.mem_singleton.mp new
        exact absurd rfl different
  · rw [World.made, List.map_append, List.nodup_append]
    refine ⟨valid.distinct, by simp, fun first old second new => ?_⟩
    obtain ⟨call, present, rfl⟩ := List.mem_map.mp old
    cases List.mem_singleton.mp new
    exact fresh call present

/-- A session that no call uses changes its own holds. -/
theorem Invariant.changeDirect {world : World α} (valid : Invariant world) {locks : AdvisoryLocks}
    {direct : Nat → Int → Nat} (positive : locks.Positive)
    (counted : ∀ session lock, locks.balance session lock + world.direct session lock =
      world.locks.balance session lock + direct session lock) :
    Invariant { world with locks := locks, direct := direct } := by
  refine ⟨positive, fun session lock => ?_, valid.sound, valid.nested, valid.distinct⟩
  have total := valid.counted session lock
  have change := counted session lock
  simp only [World.owes] at total ⊢
  omega

theorem Call.owed_over {call : Call α} (ends : call.Over) : call.owed = 0 := by
  rcases ends with returned | ⟨dropped, none⟩
  · unfold Call.returned? at returned
    split at returned
    · rename_i result rest
      simp [Call.owed, rest, Interleaving.owed]
    · cases returned
  · simp [Call.owed, dropped, none]

theorem Invariant.direct_of_idle {world : World α} {session : Nat} (valid : Invariant world)
    (idle : world.Idle session) (lock : Int) : world.locks.balance session lock = world.direct session lock := by
  have nothing : world.owes session lock = 0 := by
    apply List.sum_eq_zero_iff_forall_eq_nat.mpr
    intro count member
    obtain ⟨call, present, rfl⟩ := List.mem_map.mp member
    unfold Call.owes
    split
    · rename_i own
      exact Call.owed_over (idle call present own.1)
    · rfl
  have total := valid.counted session lock
  omega

theorem Invariant.takeDirect {world : World α} {session : Nat} {lock : Int} (valid : Invariant world) :
    Invariant { world with
      locks := (world.locks.tryLock session lock).2
      direct := world.countDirect session lock
        (world.direct session lock + (world.locks.tryLock session lock).1.toNat) } := by
  apply valid.changeDirect valid.positive.tryLock
  intro other id
  cases taken : (world.locks.tryLock session lock).1 with
  | false =>
    rw [AdvisoryLocks.tryLock_missed taken]
    by_cases own : session = other ∧ lock = id
    · obtain ⟨rfl, rfl⟩ := own
      simp [World.countDirect]
    · simp [World.countDirect, own]
  | true =>
    rw [AdvisoryLocks.balance_tryLock taken]
    by_cases own : session = other ∧ lock = id
    · obtain ⟨rfl, rfl⟩ := own
      simp [World.countDirect]
      omega
    · simp [World.countDirect, own]

theorem Invariant.releaseDirect {world : World α} {session : Nat} {lock : Int} (valid : Invariant world)
    (idle : world.Idle session) :
    Invariant { world with
      locks := (world.locks.unlock session lock).2
      direct := world.countDirect session lock
        (world.direct session lock - (world.locks.unlock session lock).1.toNat) } := by
  apply valid.changeDirect valid.positive.unlock
  intro other id
  rw [AdvisoryLocks.balance_unlock valid.positive]
  by_cases own : session = other ∧ lock = id
  · obtain ⟨rfl, rfl⟩ := own
    have mine := valid.direct_of_idle idle lock
    have released : (world.locks.unlock session lock).1 = true ↔ _ := AdvisoryLocks.unlock_iff valid.positive
    cases answer : (world.locks.unlock session lock).1 <;> simp [World.countDirect, answer] at released ⊢ <;> omega
  · simp [World.countDirect, own]

theorem Invariant.closeSession {world : World α} {session : Nat} (valid : Invariant world)
    (idle : world.Idle session) :
    Invariant { world with
      locks := world.locks.closeSession session
      direct := fun other lock => if session = other then 0 else world.direct other lock } := by
  apply valid.changeDirect valid.positive.closeSession
  intro other id
  rw [AdvisoryLocks.balance_closeSession]
  by_cases own : session = other
  · subst own
    simp [valid.direct_of_idle idle id]
  · simp [own]

/-- A call that has more to do is sound if that accounts for its locks. -/
theorem Call.Sound.go {call : Call α} {guards : List Guard} {course : Course α (Except Error (Option α))}
    (own : ∀ lock, .abandon lock ∈ guards → lock = call.key.lock) (accounts : Accounts call.key course guards) :
    Call.Sound { call with guards := guards, rest := some course } := by
  refine ⟨own, fun rest same => ?_⟩
  cases same
  exact accounts

theorem Call.Sound.cut {call : Call α} {guards : List Guard}
    (own : ∀ lock, .abandon lock ∈ guards → lock = call.key.lock) :
    Call.Sound { call with guards := guards, rest := none : Call α } :=
  ⟨own, fun _ impossible => by cases impossible⟩

/-- Every step of every call keeps the count of the holds right. -/
theorem Step.invariant {world next : World α} {actor : Option Nat} (step : Step world actor next)
    (valid : Invariant world) : Invariant next := by
  cases step with
  | make fresh idle =>
    exact valid.made _ _ _ _ _ fresh fun other present same => .inl (idle other present same)
  | nest present running fresh lent => exact valid.made _ _ _ _ _ fresh lent
  | @takeLocal before after call key rest present asks =>
    have sound := valid.sound call (by simp [present])
    obtain ⟨less, accounts⟩ := sound.accounts _ asks (world.localLocks.tryTake key).1
    apply valid.keep present _ _ _ (Call.not_over_of_ask asks) (.go sound.guards accounts)
    rw [Call.owed_eq asks, Call.owed_eq rfl, less]
    rfl
  | @freeLocal before after call key rest present asks =>
    have sound := valid.sound call (by simp [present])
    obtain ⟨less, accounts⟩ := sound.accounts _ asks
    apply valid.keep present _ _ _ (Call.not_over_of_ask asks) (.go sound.guards accounts)
    rw [Call.owed_eq asks, Call.owed_eq rfl, less]
    rfl
  | @tryAdvisory before after call lock rest present asks =>
    have sound := valid.sound call (by simp [present])
    obtain ⟨rfl, ⟨more, _, won⟩, less, missed⟩ := sound.accounts _ asks
    have nothing : call.owed = 0 := Call.owed_eq asks
    cases taken : (world.locks.tryLock call.session call.key.lock).1 with
    | false =>
      rw [AdvisoryLocks.tryLock_missed taken]
      apply valid.keep present _ _ _ (Call.not_over_of_ask asks) (.go sound.guards missed)
      rw [nothing, Call.owed_eq rfl, less]
    | true =>
      apply valid.advance present _ _ _ valid.positive.tryLock (Call.not_over_of_ask asks) (.go sound.guards won)
      intro session id
      rw [AdvisoryLocks.balance_tryLock taken]
      by_cases own : call.session = session ∧ call.key.lock = id
      · obtain ⟨rfl, rfl⟩ := own
        simp only [Call.owes, and_self, if_true, nothing]
        rw [Call.owed_eq rfl, more]
      · simp [Call.owes, own]
  | @unlock before after call lock rest present asks =>
    have sound := valid.sound call (by simp [present])
    obtain ⟨rfl, _, _, less, accounts⟩ := sound.accounts _ asks
    have one : call.owed = 1 := Call.owed_eq asks
    have held := valid.holds present
    have released : (world.locks.unlock call.session call.key.lock).1 = true :=
      (AdvisoryLocks.unlock_iff valid.positive).mpr (by omega)
    rw [released]
    apply valid.release present _ _ (Call.not_over_of_ask asks) (.go sound.guards accounts)
    rw [one, Call.owed_eq rfl, less]
  | @abandon before after call lock rest present asks =>
    have sound := valid.sound call (by simp [present])
    exact (sound.accounts _ asks).elim
  | @arm before after call guard rest present asks =>
    have sound := valid.sound call (by simp [present])
    obtain ⟨mine, less, accounts⟩ := sound.accounts _ asks
    have own (lock : Int) (found : .abandon lock ∈ guard :: call.guards) : lock = call.key.lock := by
      rcases List.mem_cons.mp found with new | old
      · exact mine lock new.symm
      · exact sound.guards lock old
    apply valid.keep present _ _ _ (Call.not_over_of_ask asks) (.go own accounts)
    rw [Call.owed_eq asks, Call.owed_eq rfl, less]
    rfl
  | @disarm before after call rest present asks =>
    have sound := valid.sound call (by simp [present])
    obtain ⟨less, accounts⟩ := sound.accounts _ asks
    have own (lock : Int) (found : .abandon lock ∈ call.guards.tail) : lock = call.key.lock :=
      sound.guards lock (List.mem_of_mem_tail found)
    apply valid.keep present _ _ _ (Call.not_over_of_ask asks) (.go own accounts)
    rw [Call.owed_eq asks, Call.owed_eq rfl, less]
    rfl
  | @finish before after call held rest present asks innermost result =>
    have sound := valid.sound call (by simp [present])
    obtain ⟨_, _, goesOn⟩ := sound.accounts _ asks
    obtain ⟨same, accounts⟩ := goesOn result
    apply valid.keep present _ _ _ (Call.not_over_of_ask asks) (.go sound.guards accounts)
    rw [Call.owed_eq asks, Call.owed_eq rfl, same]
    rfl
  | @cancelBody before after call held rest present asks innermost =>
    have sound := valid.sound call (by simp [present])
    obtain ⟨armed, _⟩ := sound.accounts _ asks
    apply valid.keep present _ _ _ (Call.not_over_of_ask asks) (.cut sound.guards)
    rw [Call.owed_eq asks, Call.owed_dropped rfl, armed]
    rfl
  | @cancelRelease before after call lock rest present asks =>
    have sound := valid.sound call (by simp [present])
    obtain ⟨rfl, armed, _⟩ := sound.accounts _ asks
    apply valid.keep present _ _ _ (Call.not_over_of_ask asks) (.cut sound.guards)
    rw [Call.owed_eq asks, Call.owed_dropped rfl, armed]
    rfl
  | @guardLocal before after call key guards present dropped acts =>
    have sound := valid.sound call (by simp [present])
    have own (lock : Int) (found : .abandon lock ∈ guards) : lock = call.key.lock :=
      sound.guards lock (by simp [acts, found])
    have cut : Call.Sound { call with guards := guards } :=
      ⟨own, fun _ impossible => by simp [dropped] at impossible⟩
    apply valid.keep present _ _ _ (Call.not_over_of_guard dropped acts) cut
    rw [Call.owed_dropped dropped, Call.owed_guards dropped, acts]
    simp
  | @guardAdvisory before after call lock guards present dropped acts =>
    have sound := valid.sound call (by simp [present])
    obtain rfl := sound.guards lock (by simp [acts])
    have own (lock : Int) (found : .abandon lock ∈ guards) : lock = call.key.lock :=
      sound.guards lock (by simp [acts, found])
    have cut : Call.Sound { call with guards := guards } :=
      ⟨own, fun _ impossible => by simp [dropped] at impossible⟩
    apply valid.release present _ _ (Call.not_over_of_guard dropped acts) cut
    rw [Call.owed_dropped dropped, Call.owed_guards dropped, acts]
    simp
  | takeDirect idle => exact valid.takeDirect
  | releaseDirect idle => exact valid.releaseDirect idle
  | closeSession idle => exact valid.closeSession idle

theorem History.invariant {past : List (Transition α)} {world : World α} (history : History past world) :
    Invariant world := by
  induction history with
  | empty => exact invariant_empty
  | step earlier last ih => exact last.invariant ih

end LeaseQueue.Interleaving
