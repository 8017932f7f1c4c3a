import Mathlib.Data.List.Forall2

/-!
How calls that may stop and change a state run: one equation for each of their building blocks.
-/
namespace LeaseQueue

variable {ε σ α β : Type}

theorem run_bind (action : ExceptT ε (StateM σ) α) (next : α → ExceptT ε (StateM σ) β) (state : σ) :
    (action >>= next).run.run state =
      match action.run.run state with
      | (.ok result, after) => (next result).run.run after
      | (.error cause, after) => (.error cause, after) := by
  change (ExceptT.bindCont next (action.run.run state).1).run (action.run.run state).2 = _
  rcases action.run.run state with ⟨_ | _, _⟩ <;> rfl

theorem run_get (state : σ) : (get : ExceptT ε (StateM σ) σ).run.run state = (.ok state, state) := rfl

theorem run_set (next state : σ) : (set next : ExceptT ε (StateM σ) PUnit).run.run state = (.ok ⟨⟩, next) := rfl

theorem run_modify (change : σ → σ) (state : σ) :
    (modify change : ExceptT ε (StateM σ) PUnit).run.run state = (.ok ⟨⟩, change state) := rfl

theorem run_tryCatch (action : ExceptT ε (StateM σ) α) (handler : ε → ExceptT ε (StateM σ) α) (state : σ) :
    (tryCatchThe ε action handler).run.run state =
      match action.run.run state with
      | (.ok result, after) => (.ok result, after)
      | (.error cause, after) => (handler cause).run.run after := by
  change (match (action.run.run state).1 with
    | .ok result => (pure (.ok result) : StateM σ (Except ε α))
    | .error cause => (handler cause).run).run (action.run.run state).2 = _
  rcases action.run.run state with ⟨_ | _, _⟩ <;> rfl

/-- What a call in two parts gave was given by the second part on what the first one gave. -/
theorem exists_of_bind_ok {first : Except ε α} {next : α → Except ε β} {result : β}
    (done : (first >>= next) = .ok result) : ∃ found, first = .ok found ∧ next found = .ok result := by
  cases first with
  | error cause => cases done
  | ok found => exact ⟨found, rfl, done⟩

/-! Lists that belong together item by item. -/

section

variable {related : α → β → Prop} {items : List α}

theorem exists_of_mem_forall₂ {results : List β} (steps : List.Forall₂ related items results) {item : α}
    (member : item ∈ items) : ∃ result ∈ results, related item result := by
  obtain ⟨place, rfl⟩ := List.get_of_mem member
  have bound : place < results.length := steps.length_eq ▸ place.isLt
  exact ⟨results.get ⟨place, bound⟩, List.get_mem .., steps.get place.isLt bound⟩

/-- What belongs to a part of a list. -/
theorem forall₂_append_cons {before after : List β} {result : β}
    (steps : List.Forall₂ related items (before ++ result :: after)) :
    ∃ earlier item later, items = earlier ++ item :: later ∧ related item result ∧
      List.Forall₂ related later after := by
  obtain ⟨item, later, here, rest, split⟩ := List.forall₂_cons_right_iff.mp (List.forall₂_drop_append _ _ _ steps)
  exact ⟨items.take before.length, item, later, split ▸ (List.take_append_drop _ _).symm, here, rest⟩

end

/-! Lists that are worked through item by item. -/

section

variable {f : α → Except ε β} {items : List α}

/-- What came of each item of a list that was worked through without an error. -/
theorem forall₂_of_mapM {results : List β} (done : items.mapM f = .ok results) :
    List.Forall₂ (fun item result => f item = .ok result) items results := by
  induction items generalizing results with
  | nil =>
    cases done
    exact .nil
  | cons item rest ih =>
    rw [List.mapM_cons] at done
    cases first : f item with
    | error failure => rw [first] at done; cases done
    | ok found =>
      cases others : rest.mapM f with
      | error failure => rw [first, others] at done; cases done
      | ok later =>
        rw [first, others] at done
        cases done
        exact .cons first (ih others)

theorem exists_of_mem_mapM {results : List β} (done : items.mapM f = .ok results) {result : β}
    (member : result ∈ results) : ∃ item ∈ items, f item = .ok result := by
  have steps : List.Forall₂ (flip fun item result => f item = .ok result) results items := (forall₂_of_mapM done).flip
  exact exists_of_mem_forall₂ steps member

/-- The error with which it stopped is the one of some item. -/
theorem exists_of_mapM_error {failure : ε} (stopped : items.mapM f = .error failure) :
    ∃ item ∈ items, f item = .error failure := by
  induction items with
  | nil => cases stopped
  | cons item rest ih =>
    rw [List.mapM_cons] at stopped
    cases first : f item with
    | error cause =>
      rw [first] at stopped
      cases stopped
      exact ⟨item, List.mem_cons_self, first⟩
    | ok found =>
      cases others : rest.mapM f with
      | ok later => rw [first, others] at stopped; cases stopped
      | error cause =>
        rw [first, others] at stopped
        cases stopped
        obtain ⟨origin, inside, gives⟩ := ih others
        exact ⟨origin, List.mem_cons_of_mem _ inside, gives⟩

/-- A list is worked through without an error if each of its items can be. -/
theorem mapM_eq_ok_iff {fits : α → Prop} {value : α → β}
    (each : ∀ item ∈ items, ∀ result, f item = .ok result ↔ fits item ∧ result = value item) {results : List β} :
    items.mapM f = .ok results ↔ (∀ item ∈ items, fits item) ∧ results = items.map value := by
  have values {found : List β} (steps : List.Forall₂ (fun item result => f item = .ok result) items found) :
      found = items.map value := by
    induction steps with
    | nil => rfl
    | @cons item _ rest _ gives _ ih =>
      rw [List.map_cons, ((each item List.mem_cons_self _).mp gives).2,
        ih fun other member => each other (List.mem_cons_of_mem _ member)]
  constructor
  · intro done
    refine ⟨fun item member => ?_, values (forall₂_of_mapM done)⟩
    obtain ⟨result, _, gives⟩ := exists_of_mem_forall₂ (forall₂_of_mapM done) member
    exact ((each item member result).mp gives).1
  · rintro ⟨fit, rfl⟩
    cases done : items.mapM f with
    | error failure =>
      obtain ⟨item, member, failed⟩ := exists_of_mapM_error done
      cases failed.symm.trans ((each item member _).mpr ⟨fit item member, rfl⟩)
    | ok found => rw [values (forall₂_of_mapM done)]

/-- A check of every item passes, or fails as it does for one of them. -/
theorem forM_cases (check : α → Except ε PUnit) (items : List α) :
    ((∀ item ∈ items, check item = .ok ⟨⟩) ∧ items.forM check = .ok ⟨⟩) ∨
      ∃ item ∈ items, ∃ failure, check item = .error failure ∧ items.forM check = .error failure := by
  induction items with
  | nil => exact .inl ⟨nofun, rfl⟩
  | cons item rest ih =>
    have step : (item :: rest).forM check = check item >>= fun _ => rest.forM check := rfl
    rw [step]
    cases first : check item with
    | error failure => exact .inr ⟨item, List.mem_cons_self, failure, first, rfl⟩
    | ok _ =>
      rcases ih with ⟨all, passed⟩ | ⟨other, member, failure, failed, stopped⟩
      · exact .inl ⟨List.forall_mem_cons.mpr ⟨first, all⟩, passed⟩
      · exact .inr ⟨other, List.mem_cons_of_mem _ member, failure, failed, stopped⟩

end

end LeaseQueue
