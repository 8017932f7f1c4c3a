import LeaseQueue.Proofs.Lock.Advisory

/-!
What sessions hold, counted from what was answered to them. The balance of a session is the number of times that it
has taken a lock since it was opened, less the number of times that it has released it. At every point the locks answer
as these balances say.
-/
namespace LeaseQueue.AdvisoryLocks

/-- Something that a session did, with what came of it. -/
inductive SessionEvent
  | opened (session : Nat)
  | tried (session : Nat) (lock : Int) (taken : Bool)
  | released (session : Nat) (lock : Int) (done : Bool)
  /-- Gave up a lock; whether it had one to give up is told to nobody. -/
  | abandoned (session : Nat) (lock : Int) (done : Bool)
  | dropped (session : Nat)
deriving DecidableEq, Repr

namespace SessionEvent

/-- The balance of a session for a lock after these events, last ones first. -/
def net (session : Nat) (lock : Int) : List SessionEvent → Int
  | [] => 0
  | opened other :: past | dropped other :: past => if session = other then 0 else net session lock past
  | tried other id taken :: past => net session lock past + if other = session ∧ id = lock ∧ taken then 1 else 0
  | released other id done :: past | abandoned other id done :: past =>
    net session lock past - if other = session ∧ id = lock ∧ done then 1 else 0

/-- The session was opened and has not been dropped since. -/
def IsOpen (session : Nat) : List SessionEvent → Prop
  | [] => False
  | opened other :: past => session = other ∨ IsOpen session past
  | dropped other :: past => session ≠ other ∧ IsOpen session past
  | tried _ _ _ :: past | released _ _ _ :: past | abandoned _ _ _ :: past => IsOpen session past

end SessionEvent

open SessionEvent

/-- The events that lead from no sessions to the locks as they are, last ones first. Only open sessions act. -/
inductive Past : List SessionEvent → AdvisoryLocks → Prop
  | start : Past [] .none
  | opened {past : List SessionEvent} {locks after : AdvisoryLocks} {session : Nat} (earlier : Past past locks)
      (step : locks.openSession = (session, after)) : Past (.opened session :: past) after
  | tried {past : List SessionEvent} {locks after : AdvisoryLocks} {session : Nat} {lock : Int} {taken : Bool}
      (earlier : Past past locks) (acting : IsOpen session past) (step : locks.tryLock session lock = (taken, after)) :
      Past (.tried session lock taken :: past) after
  | released {past : List SessionEvent} {locks after : AdvisoryLocks} {session : Nat} {lock : Int} {done : Bool}
      (earlier : Past past locks) (acting : IsOpen session past) (step : locks.unlock session lock = (done, after)) :
      Past (.released session lock done :: past) after
  | abandoned {past : List SessionEvent} {locks after : AdvisoryLocks} {session : Nat} {lock : Int} {done : Bool}
      (earlier : Past past locks) (acting : IsOpen session past) (step : locks.unlock session lock = (done, after)) :
      Past (.abandoned session lock done :: past) after
  | dropped {past : List SessionEvent} {locks : AdvisoryLocks} {session : Nat} (earlier : Past past locks)
      (acting : IsOpen session past) : Past (.dropped session :: past) (locks.closeSession session)

/-- The locks agree with their past. -/
structure Agrees (past : List SessionEvent) (locks : AdvisoryLocks) : Prop where
  positive : locks.Positive
  issued : ∀ session, IsOpen session past → session < locks.nextSession
  fresh : ∀ session lock, locks.nextSession ≤ session → locks.balance session lock = 0
  counted : ∀ session lock, net session lock past = locks.balance session lock

namespace Agrees

variable {past : List SessionEvent} {locks : AdvisoryLocks} {session : Nat} {lock : Int}

theorem start : Agrees [] .none where
  positive := positive_none
  issued _ absent := absent.elim
  fresh _ _ _ := balance_none
  counted _ _ := congrArg Int.ofNat balance_none.symm

theorem opened (before : Agrees past locks) : Agrees (.opened locks.nextSession :: past) locks.openSession.2 where
  positive := before.positive
  issued other acting := by
    rcases acting with rfl | acting
    · exact Nat.lt_succ_self _
    · exact Nat.lt_succ_of_lt (before.issued other acting)
  fresh other id late := before.fresh other id (Nat.le_of_succ_le late)
  counted other id := by
    simp only [net]
    split
    · rename_i new
      exact congrArg Int.ofNat (before.fresh other id (Nat.le_of_eq new.symm)).symm
    · exact before.counted other id

theorem tried (before : Agrees past locks) (acting : IsOpen session past) :
    Agrees (.tried session lock (locks.tryLock session lock).1 :: past) (locks.tryLock session lock).2 := by
  cases answer : (locks.tryLock session lock).1 with
  | false =>
    rw [tryLock_missed answer]
    refine ⟨before.positive, before.issued, before.fresh, fun other id => ?_⟩
    simpa [net] using before.counted other id
  | true =>
    refine ⟨before.positive.tryLock, fun other acts => ?_, fun other id late => ?_, fun other id => ?_⟩
    · rw [nextSession_tryLock]
      exact before.issued other acts
    · rw [nextSession_tryLock] at late
      have apart : session ≠ other := Nat.ne_of_lt (Nat.lt_of_lt_of_le (before.issued session acting) late)
      rw [balance_tryLock answer, before.fresh other id late, if_neg fun both => apart both.1]
    · rw [balance_tryLock answer, net, before.counted]
      by_cases here : session = other ∧ lock = id <;> simp [here]

/-- What releases a lock is counted alike, whoever is told of it. -/
theorem unlocked {event : SessionEvent} (before : Agrees past locks)
    (counts : ∀ other id, net other id (event :: past) = net other id past -
      if session = other ∧ lock = id ∧ (locks.unlock session lock).1 then 1 else 0)
    (stays : ∀ other, IsOpen other (event :: past) → IsOpen other past) :
    Agrees (event :: past) (locks.unlock session lock).2 where
  positive := before.positive.unlock
  issued other acts := by
    rw [nextSession_unlock]
    exact before.issued other (stays other acts)
  fresh other id late := by
    rw [nextSession_unlock] at late
    rw [balance_unlock before.positive, before.fresh other id late, Nat.zero_sub]
  counted other id := by
    have done : (locks.unlock session lock).1 = true ↔ 0 < locks.balance session lock := unlock_iff before.positive
    rw [counts, before.counted, balance_unlock before.positive]
    simp only [done]
    by_cases here : session = other ∧ lock = id
    · obtain ⟨rfl, rfl⟩ := here
      simp only [true_and, if_true]
      split <;> omega
    · rw [if_neg here, if_neg fun all => here ⟨all.1, all.2.1⟩]
      omega

theorem dropped (before : Agrees past locks) : Agrees (.dropped session :: past) (locks.closeSession session) where
  positive := before.positive.closeSession
  issued other acts := before.issued other acts.2
  fresh other id late := by
    rw [balance_closeSession, before.fresh other id late, ite_self]
  counted other id := by
    rw [balance_closeSession, net, before.counted]
    by_cases own : session = other
    · rw [if_pos own, if_pos own.symm]
      rfl
    · rw [if_neg own, if_neg (Ne.symm own)]

end Agrees

theorem Past.agrees {past : List SessionEvent} {locks : AdvisoryLocks} (history : Past past locks) :
    Agrees past locks := by
  induction history with
  | start => exact .start
  | opened _ step ih =>
    cases step
    exact ih.opened
  | @tried _ locks _ session lock _ _ acting step ih =>
    cases congrArg Prod.fst step
    cases congrArg Prod.snd step
    exact ih.tried acting
  | released _ _ step ih | abandoned _ _ step ih =>
    cases congrArg Prod.fst step
    cases congrArg Prod.snd step
    exact ih.unlocked (fun _ _ => rfl) fun _ acts => acts
  | dropped _ _ ih => exact ih.dropped

/-- The locks answer as the balances of the sessions say. -/
structure Counting (past : List SessionEvent) (locks : AdvisoryLocks) : Prop where
  /-- What the locks count are the balances, so that none is negative. -/
  counted : ∀ session lock, net session lock past = locks.balance session lock
  exclusive : ∀ first second lock, 0 < net first lock past → 0 < net second lock past → first = second
  held : ∀ lock, locks.isHeld lock = true ↔ ∃ session, 0 < net session lock past
  taken : ∀ session lock, (locks.tryLock session lock).1 = true ↔
    ∀ other, other ≠ session → ¬ 0 < net other lock past
  released : ∀ session lock, (locks.unlock session lock).1 = true ↔ 0 < net session lock past
  /-- A release takes one from the balance of the session for that lock, if it has one to take, and no other changes. -/
  lowered : ∀ session lock other id, ((locks.unlock session lock).2.balance other id : Int) =
    net other id past - if session = other ∧ lock = id ∧ 0 < net session lock past then 1 else 0
  /-- The end of a session leaves the balances of all others, and so the locks that they hold. -/
  dropped : ∀ session lock, ((locks.closeSession session).isHeld lock = true ↔
    ∃ other, other ≠ session ∧ 0 < net other lock past) ∧
    ∀ other, ((locks.closeSession session).balance other lock : Int) =
      if session = other then 0 else net other lock past

theorem Agrees.counting {past : List SessionEvent} {locks : AdvisoryLocks} (agrees : Agrees past locks) :
    Counting past locks := by
  have positive (session : Nat) (lock : Int) : 0 < net session lock past ↔ 0 < locks.balance session lock := by
    rw [agrees.counted]
    exact Int.natCast_pos
  refine ⟨agrees.counted, fun first second lock one two => ?_, fun lock => ?_, fun session lock => ?_,
    fun session lock => ?_, fun session lock other id => ?_, fun session lock => ⟨?_, fun other => ?_⟩⟩
  · exact session_unique ((positive first lock).mp one) ((positive second lock).mp two)
  · simp only [positive, isHeld_iff agrees.positive]
  · simp only [positive, tryLock_iff agrees.positive]
    exact forall_congr' fun other => Decidable.not_imp_not.symm
  · rw [positive, unlock_iff agrees.positive]
  · have after : Agrees (.released session lock (locks.unlock session lock).1 :: past) (locks.unlock session lock).2 :=
      agrees.unlocked (fun _ _ => rfl) fun _ acts => acts
    rw [← after.counted, net]
    simp only [unlock_iff agrees.positive, positive]
  · have left (other : Nat) : 0 < (if session = other then 0 else locks.balance other lock) ↔
        other ≠ session ∧ 0 < locks.balance other lock := by
      by_cases own : session = other
      · simp [own]
      · simp [own, Ne.symm own]
    simp only [positive, isHeld_iff agrees.positive.closeSession, balance_closeSession, left]
  · rw [balance_closeSession, agrees.counted]
    split <;> rfl

/-- Session locks are counting locks: whatever sessions have done, a lock is with the one session whose balance for it
is positive. -/
theorem sessions_count_holds {past : List SessionEvent} {locks : AdvisoryLocks} (history : Past past locks) :
    Counting past locks :=
  history.agrees.counting

/-- Two sessions that want one lock, last events first. The second one gets it when the first one is dropped, which
still has it once then. -/
def quarrel : List SessionEvent :=
  [.tried 1 7 true, .dropped 0, .abandoned 0 9 false, .released 0 7 true, .released 1 7 false, .tried 1 7 false,
    .tried 0 7 true, .tried 0 7 true, .opened 1, .opened 0]

theorem quarrel_counted : ∃ locks, Past quarrel locks ∧ Counting quarrel locks ∧ net 1 7 quarrel = 1 := by
  have first : IsOpen 0 [.opened 1, .opened 0] := .inr (.inl rfl)
  have second : IsOpen 1 [.opened 1, .opened 0] := .inl rfl
  have met : Past [.opened 1, .opened 0] _ := .opened (.opened .start rfl) rfl
  have stacked : Past [.tried 0 7 true, .tried 0 7 true, .opened 1, .opened 0] _ :=
    .tried (.tried met first (Prod.ext (by decide) rfl)) first (Prod.ext (by decide) rfl)
  have refused : Past (.released 1 7 false :: .tried 1 7 false :: _) _ :=
    .released (.tried stacked second (Prod.ext (by decide) rfl)) second (Prod.ext (by decide) rfl)
  have lowered : Past (.abandoned 0 9 false :: .released 0 7 true :: _) _ :=
    .abandoned (.released refused first (Prod.ext (by decide) rfl)) first (Prod.ext (by decide) rfl)
  have history : Past quarrel _ :=
    .tried (.dropped lowered first) ⟨by decide, second⟩ (Prod.ext (by decide +kernel) rfl)
  exact ⟨_, history, sessions_count_holds history, by decide⟩

end LeaseQueue.AdvisoryLocks
