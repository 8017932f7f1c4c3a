import LeaseQueue.Lock.Advisory

/-!
How each step on the advisory locks changes what the sessions hold. Every step touches one session, and a lock has at
most one session that holds it.
-/
namespace LeaseQueue.AdvisoryLocks

variable {locks : AdvisoryLocks} {session other : Nat} {lock id : Int}

/-- A lock that is held has been taken at least once. -/
def Positive (locks : AdvisoryLocks) : Prop := ∀ (lock : Int) (hold : Hold), locks.holds[lock]? = some hold → 0 < hold.count

theorem positive_none : none.Positive := by
  intro lock hold found
  simp [none] at found

theorem balance_none : none.balance session lock = 0 := by simp [balance, none]

/-- Two sessions that hold one lock are the same. -/
theorem session_unique (first : 0 < locks.balance session lock) (second : 0 < locks.balance other lock) :
    session = other := by
  unfold balance at first second
  cases found : locks.holds[lock]? with
  | none => simp [found] at first
  | some hold =>
    simp only [found] at first second
    split at first
    · split at second
      · rename_i same also
        exact same.symm.trans also
      · simp at second
    · simp at first

theorem balance_insert (holds : Std.ExtTreeMap Int Hold) (next count : Nat) :
    (AdvisoryLocks.mk (holds.insert lock ⟨session, count⟩) next).balance other id =
      if lock = id then (if session = other then count else 0) else (AdvisoryLocks.mk holds next).balance other id := by
  by_cases same : lock = id <;> simp [balance, Std.ExtTreeMap.getElem?_insert, same]

theorem balance_erase (holds : Std.ExtTreeMap Int Hold) (next : Nat) :
    (AdvisoryLocks.mk (holds.erase lock) next).balance other id =
      if lock = id then 0 else (AdvisoryLocks.mk holds next).balance other id := by
  by_cases same : lock = id <;> simp [balance, Std.ExtTreeMap.getElem?_erase, same]

theorem Positive.insert {holds : Std.ExtTreeMap Int Hold} {next count : Nat} (valid : Positive ⟨holds, next⟩)
    (taken : 0 < count) : Positive ⟨holds.insert lock ⟨session, count⟩, next⟩ := by
  intro id hold found
  rw [Std.ExtTreeMap.getElem?_insert] at found
  split at found
  · cases found
    exact taken
  · exact valid id hold found

theorem Positive.erase {holds : Std.ExtTreeMap Int Hold} {next : Nat} (valid : Positive ⟨holds, next⟩) :
    Positive ⟨holds.erase lock, next⟩ := by
  intro id hold found
  rw [Std.ExtTreeMap.getElem?_erase] at found
  split at found
  · simp at found
  · exact valid id hold found

theorem tryLock_missed (missed : (locks.tryLock session lock).1 = false) :
    (locks.tryLock session lock).2 = locks := by
  unfold tryLock at missed ⊢
  split
  · split
    · simp_all
    · rfl
  · simp_all

/-- A lock that was taken counts once more, and nothing else changes. -/
theorem balance_tryLock (taken : (locks.tryLock session lock).1 = true) :
    (locks.tryLock session lock).2.balance other id =
      locks.balance other id + (if session = other ∧ lock = id then 1 else 0) := by
  unfold tryLock at taken ⊢
  cases found : locks.holds[lock]? with
  | none =>
    simp only [balance_insert]
    by_cases here : lock = id
    · subst here
      simp [balance, found]
    · simp [here, balance]
  | some hold =>
    simp only [found] at taken ⊢
    split
    · rename_i owned
      simp only [balance_insert]
      by_cases here : lock = id
      · subst here
        by_cases own : session = other <;> simp [balance, found, own, owned]
      · simp [here, balance]
    · rename_i foreign
      simp [foreign] at taken

theorem Positive.tryLock (valid : locks.Positive) : (locks.tryLock session lock).2.Positive := by
  unfold AdvisoryLocks.tryLock
  split
  · split
    · exact valid.insert (Nat.succ_pos _)
    · exact valid
  · exact valid.insert Nat.one_pos

/-- A session can release exactly what it holds. -/
theorem unlock_iff (valid : locks.Positive) :
    (locks.unlock session lock).1 = true ↔ 0 < locks.balance session lock := by
  unfold unlock balance
  cases found : locks.holds[lock]? with
  | none => simp
  | some hold =>
    have least := valid lock hold found
    by_cases owned : hold.session = session <;> simp [owned, least]

/-- A lock is held if some session holds it. -/
theorem isHeld_iff (valid : locks.Positive) : locks.isHeld lock = true ↔ ∃ session, 0 < locks.balance session lock := by
  unfold isHeld balance
  cases found : locks.holds[lock]? with
  | none => simp
  | some hold => exact iff_of_true rfl ⟨hold.session, by simpa using valid lock hold found⟩

/-- A session can take exactly what no other one holds. -/
theorem tryLock_iff (valid : locks.Positive) : (locks.tryLock session lock).1 = true ↔
    ∀ other, 0 < locks.balance other lock → other = session := by
  unfold tryLock balance
  cases found : locks.holds[lock]? with
  | none => simp
  | some hold =>
    have least := valid lock hold found
    by_cases owned : hold.session = session
    · refine iff_of_true (by simp [owned]) fun other held => ?_
      by_cases same : session = other
      · exact same.symm
      · simp [owned, same] at held
    · simpa [owned] using ⟨hold.session, by simpa using least, owned⟩

/-- A release takes one hold away, if there is one, and changes nothing else. -/
theorem balance_unlock (valid : locks.Positive) :
    (locks.unlock session lock).2.balance other id =
      locks.balance other id - (if session = other ∧ lock = id then 1 else 0) := by
  unfold unlock
  cases found : locks.holds[lock]? with
  | none =>
    by_cases here : lock = id
    · subst here
      simp [balance, found]
    · simp [here]
  | some hold =>
    have least := valid lock hold found
    by_cases owned : hold.session = session
    · by_cases last : hold.count ≤ 1
      · have single : hold.count = 1 := by omega
        simp only [owned, if_true, last, balance_erase]
        by_cases here : lock = id
        · subst here
          by_cases own : session = other <;> simp [balance, found, own, owned, single]
        · simp [here, balance]
      · simp only [owned, if_true, last, if_false, balance_insert]
        by_cases here : lock = id
        · subst here
          by_cases own : session = other <;> simp [balance, found, own, owned]
        · simp [here, balance]
    · simp only [owned, if_false]
      by_cases here : lock = id
      · subst here
        by_cases own : session = other
        · subst own
          simp [balance, found, owned]
        · simp [own]
      · simp [here]

theorem Positive.unlock (valid : locks.Positive) : (locks.unlock session lock).2.Positive := by
  unfold AdvisoryLocks.unlock
  cases found : locks.holds[lock]? with
  | none => exact valid
  | some hold =>
    by_cases owned : hold.session = session
    · by_cases last : hold.count ≤ 1
      · simpa only [owned, last, if_true] using valid.erase
      · simpa only [owned, last, if_true, if_false] using valid.insert (by omega)
    · simpa only [owned, if_false] using valid

theorem nextSession_tryLock : (locks.tryLock session lock).2.nextSession = locks.nextSession := by
  unfold tryLock
  split
  · split <;> rfl
  · rfl

theorem nextSession_unlock : (locks.unlock session lock).2.nextSession = locks.nextSession := by
  unfold unlock
  split
  · split <;> rfl
  · rfl

/-- The end of a session takes away all that it holds and nothing else. -/
theorem balance_closeSession :
    (locks.closeSession session).balance other id = if session = other then 0 else locks.balance other id := by
  unfold closeSession balance
  rw [Std.ExtTreeMap.getElem?_filter']
  cases found : locks.holds[id]? with
  | none => simp
  | some hold =>
    by_cases ended : hold.session = session
    · by_cases own : session = other <;> simp [Option.filter_some, ended, own]
    · by_cases own : session = other
      · subst own
        simp [Option.filter_some, ended]
      · simp [Option.filter_some, ended, own]

theorem Positive.closeSession (valid : locks.Positive) : (locks.closeSession session).Positive := by
  intro lock hold found
  rw [AdvisoryLocks.closeSession, Std.ExtTreeMap.getElem?_filter'] at found
  obtain ⟨before, _⟩ := Option.filter_eq_some_iff.mp found
  exact valid lock hold before

/-! Locks that leave no trace. -/

/-- Every lock is held by a session that was opened. -/
def Issued (locks : AdvisoryLocks) : Prop :=
  ∀ (lock : Int) (hold : Hold), locks.holds[lock]? = some hold → hold.session < locks.nextSession

theorem tryLock_of_free (free : locks.isHeld lock = false) (session : Nat) :
    locks.tryLock session lock = (true, { locks with holds := locks.holds.insert lock ⟨session, 1⟩ }) := by
  have unheld : locks.holds[lock]? = .none := Option.isSome_eq_false_iff.mp free |> Option.isNone_iff_eq_none.mp
  unfold tryLock
  rw [unheld]

/-- A lock that another session holds is not given. -/
theorem tryLock_of_held (held : locks.isHeld lock)
    (others : ∀ hold, locks.holds[lock]? = some hold → hold.session ≠ session) :
    (locks.tryLock session lock).1 = false := by
  obtain ⟨hold, found⟩ := Option.isSome_iff_exists.mp held
  unfold tryLock
  rw [found]
  dsimp only
  rw [if_neg (others hold found)]

/-- Taking a free lock and releasing it leaves no trace. -/
theorem unlock_tryLock (free : locks.isHeld lock = false) (session : Nat) :
    ((locks.tryLock session lock).2.unlock session lock).2 = locks := by
  have unheld : locks.holds[lock]? = .none := Option.isSome_eq_false_iff.mp free |> Option.isNone_iff_eq_none.mp
  rw [tryLock_of_free free]
  unfold unlock
  rw [Std.ExtTreeMap.getElem?_insert_self]
  dsimp only
  rw [if_pos rfl, if_pos (Nat.le_refl 1)]
  refine congrArg (AdvisoryLocks.mk · locks.nextSession) (Std.ExtTreeMap.ext_getElem? fun key => ?_)
  rw [Std.ExtTreeMap.getElem?_erase, Std.ExtTreeMap.getElem?_insert]
  split
  · rename_i same
    rw [← Std.compare_eq_iff_eq.mp same, unheld]
  · rfl

/-- The end of a session that holds nothing leaves no trace. -/
theorem closeSession_of_unheld (unheld : ∀ (lock : Int) (hold : Hold), locks.holds[lock]? = some hold →
    hold.session ≠ session) : locks.closeSession session = locks := by
  unfold closeSession
  refine congrArg (AdvisoryLocks.mk · locks.nextSession) (Std.ExtTreeMap.ext_getElem? fun key => ?_)
  rw [Std.ExtTreeMap.getElem?_filter']
  cases found : locks.holds[key]? with
  | none => rfl
  | some hold => exact Option.filter_some_pos (decide_eq_true (unheld key hold found))

end LeaseQueue.AdvisoryLocks
