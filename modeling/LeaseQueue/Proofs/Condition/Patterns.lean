import LeaseQueue.Condition.Like
import Mathlib.Data.List.Infix

/-!
What a pattern says of a text, and that the matcher goes by it. The matcher remembers the last `%` alone. It loses
nothing by that, since whatever the pattern behind an earlier `%` fits later in the text, the last one is reached there
as well, and its run may be as much longer.
-/
namespace LeaseQueue

/-- The texts that are like a pattern. A backslash at the end of a pattern has no rule, so nothing is like it. -/
inductive Like : List Char → List Char → Prop
  | nil : Like [] []
  | run {rest text : List Char} (taken : List Char) (others : Like rest text) : Like ('%' :: rest) (taken ++ text)
  | single {rest text : List Char} (c : Char) (others : Like rest text) : Like ('_' :: rest) (c :: text)
  | escaped {rest text : List Char} (c : Char) (others : Like rest text) : Like ('\\' :: c :: rest) (c :: text)
  | ordinary {rest text : List Char} {c : Char} (other : c ≠ '%' ∧ c ≠ '_' ∧ c ≠ '\\') (others : Like rest text) :
      Like (c :: rest) (c :: text)

/-- Whether a text is like a pattern, read character by character; a `%` stands for whatever makes the rest fit. -/
def patternAccepts : List Char → List Char → Bool
  | [], text => text.isEmpty
  | ['\\'], _ => false
  | '\\' :: c :: rest, text =>
    match text with
    | [] => false
    | d :: others => c == d && patternAccepts rest others
  | '%' :: rest, text => text.tails.any (patternAccepts rest)
  | '_' :: rest, text =>
    match text with
    | [] => false
    | _ :: others => patternAccepts rest others
  | c :: rest, text =>
    match text with
    | [] => false
    | d :: others => c == d && patternAccepts rest others

/-- Whether each backslash of a pattern has a character behind it. -/
def patternComplete : List Char → Bool
  | [] => true
  | ['\\'] => false
  | '\\' :: _ :: rest => patternComplete rest
  | _ :: rest => patternComplete rest

theorem likeRest?_ordinary {c : Char} (d : Char) (rest : List Char) (other : c ≠ '%' ∧ c ≠ '_' ∧ c ≠ '\\') :
    likeRest? d (c :: rest) = if c = d then some rest else none := by
  unfold likeRest?
  grind

namespace Like

variable {c : Char} {pattern rest text : List Char}

theorem percent_iff : Like ('%' :: rest) text ↔ ∃ place, place <:+ text ∧ Like rest place := by
  constructor
  · intro like
    cases like with
    | run taken others => exact ⟨_, List.suffix_append _ _, others⟩
    | ordinary other => exact absurd rfl other.1
  · rintro ⟨place, ⟨taken, rfl⟩, like⟩
    exact .run taken like

/-- Nothing but `%` signs is left for the end of a text. -/
theorem nil_iff : Like pattern [] ↔ pattern.all (· == '%') := by
  induction pattern with
  | nil => simp [Like.nil]
  | cons c rest ih =>
    by_cases percent : c = '%'
    · subst percent
      rw [percent_iff]
      simp only [List.suffix_nil, exists_eq_left, ih, List.all_cons, beq_self_eq_true, Bool.true_and]
    · simp only [List.all_cons, beq_eq_false_iff_ne.mpr percent, Bool.false_and, Bool.false_eq_true, iff_false]
      intro like
      generalize empty : ([] : List Char) = text at like
      cases like <;> simp_all

/-- A character that fits the first place of a pattern can be taken away with it. -/
theorem of_rest (fits : likeRest? c pattern = some rest) (others : Like rest text) : Like pattern (c :: text) := by
  revert fits
  fun_cases likeRest? c pattern <;> intro fits <;> cases fits
  · exact .single c others
  · exact .escaped c others
  · refine .ordinary ?_ others
    grind

/-- What is like a pattern whose first place is for one character has such a character, and the rest behind it. -/
theorem exists_rest (fits : likeRest? c pattern = some rest) (like : Like pattern text) :
    ∃ d others, text = d :: others ∧ Like rest others := by
  revert fits
  fun_cases likeRest? c pattern <;> intro fits <;> cases fits
  all_goals cases like
  all_goals grind

theorem rest_of (fits : likeRest? c pattern = some rest) (like : Like pattern (c :: text)) : Like rest text := by
  obtain ⟨d, others, same, like⟩ := exists_rest fits like
  cases same
  exact like

theorem not_of_misfit (misfit : likeRest? c pattern = none) (single : ∀ rest, pattern ≠ '%' :: rest) :
    ¬ Like pattern (c :: text) := by
  intro like
  generalize same : c :: text = whole at like
  cases like with
  | nil => cases same
  | run taken others => exact single _ rfl
  | single d others => simp [likeRest?] at misfit
  | escaped d others =>
    cases same
    simp [likeRest?] at misfit
  | ordinary other others =>
    cases same
    rw [likeRest?_ordinary c _ other, if_pos rfl] at misfit
    cases misfit

end Like

theorem patternAccepts_iff (pattern text : List Char) : patternAccepts pattern text ↔ Like pattern text := by
  induction pattern using patternComplete.induct generalizing text with
  | case1 =>
    rw [patternAccepts, List.isEmpty_iff]
    exact ⟨fun empty => empty ▸ .nil, fun like => by cases like; rfl⟩
  | case2 =>
    rw [patternAccepts]
    refine ⟨nofun, fun like => ?_⟩
    cases like with
    | ordinary other => exact absurd rfl other.2.2
  | case3 c rest ih =>
    cases text with
    | nil => simp [patternAccepts, Like.nil_iff]
    | cons d others =>
      simp only [patternAccepts, Bool.and_eq_true, beq_iff_eq, ih]
      constructor
      · rintro ⟨rfl, like⟩
        exact .escaped c like
      · intro like
        cases like with
        | escaped _ others => exact ⟨rfl, others⟩
        | ordinary other => exact absurd rfl other.2.2
  | case4 c rest lone escape ih =>
    by_cases percent : c = '%'
    · subst percent
      simp only [patternAccepts, Like.percent_iff, List.any_eq_true, List.mem_tails, ih]
    · by_cases single : c = '_'
      · subst single
        cases text with
        | nil => simp [patternAccepts, Like.nil_iff]
        | cons d others =>
          rw [patternAccepts, ih]
          exact ⟨.single d, Like.rest_of rfl⟩
      · have plain : c ≠ '\\' := by
          rintro rfl
          cases rest with
          | nil => exact lone rfl rfl
          | cons d rest => exact escape d rest rfl rfl
        cases text with
        | nil => rw [patternAccepts] <;> simp_all [Like.nil_iff]
        | cons d others =>
          have step : patternAccepts (c :: rest) (d :: others) = (c == d && patternAccepts rest others) := by
            rw [patternAccepts] <;> assumption
          have fit := likeRest?_ordinary d rest ⟨percent, single, plain⟩
          rw [step, Bool.and_eq_true, beq_iff_eq, ih]
          by_cases same : c = d
          · rw [if_pos same] at fit
            exact ⟨fun ⟨_, like⟩ => .of_rest fit like, fun like => ⟨same, .rest_of fit like⟩⟩
          · rw [if_neg same] at fit
            exact ⟨fun ⟨equal, _⟩ => absurd equal same,
              fun like => absurd like (Like.not_of_misfit fit fun _ equal => percent (List.cons.inj equal).1)⟩

namespace LikeScan

variable {scan next : LikeScan}

/-- The text of a scan is like its pattern, or the pattern behind the last `%` fits at a later place. -/
def Accepts (scan : LikeScan) : Prop :=
  Like scan.pattern scan.text ∨ ∃ last ∈ scan.retry, ∃ place, place <:+ last.text.tail ∧ Like last.pattern place

/-- Where the pattern behind the last `%` fits, the text of the scan goes on as its pattern asks. -/
def Sound (scan : LikeScan) : Prop :=
  ∀ last ∈ scan.retry, ∀ place, place <:+ last.text → Like last.pattern place →
    ∃ left, left <:+ scan.text ∧ Like scan.pattern left

theorem accepts_start (pattern text : List Char) : (start pattern text).Accepts ↔ Like pattern text := by
  simp [Accepts, start]

theorem sound_start (pattern text : List Char) : (start pattern text).Sound := by
  simp [Sound, start]

theorem accepts_behind (last : LikeRetry) :
    (behind last).Accepts ↔ ∃ place, place <:+ last.text ∧ Like last.pattern place := by
  constructor
  · rintro (here | ⟨_, ⟨⟩, place, later, like⟩)
    · exact ⟨last.text, List.suffix_refl _, here⟩
    · exact ⟨place, later.trans (List.tail_suffix _), like⟩
  · rintro ⟨place, ⟨taken, same⟩, like⟩
    cases taken with
    | nil =>
      left
      change Like last.pattern last.text
      rw [← same]
      exact like
    | cons c taken =>
      right
      refine ⟨last, rfl, place, ⟨taken, ?_⟩, like⟩
      rw [← same]
      rfl

theorem sound_behind (last : LikeRetry) : (behind last).Sound := by
  rintro _ ⟨⟩ place inside like
  exact ⟨place, inside, like⟩

/-- A round loses no place where the pattern behind the last `%` may fit. -/
theorem Sound.step (sound : scan.Sound) (goes : scan.step = .inr next) : next.Sound := by
  revert goes
  fun_cases LikeScan.step scan <;> intro goes <;> cases goes
  case case2 => exact sound_behind _
  case case3 pattern c text retry within _ rest fits =>
    intro last kept place inside like
    obtain ⟨left, part, onward⟩ := sound last kept place inside like
    obtain ⟨d, others, rfl, like⟩ := onward.exists_rest fits
    exact ⟨others, (List.suffix_cons_iff.mp part).elim (fun same => (List.cons.inj same).2 ▸ List.suffix_refl _)
      fun later => (List.suffix_cons d others).trans later, like⟩
  case case4 => exact sound_behind _

theorem step_accepts (sound : scan.Sound) (goes : scan.step = .inr next) : next.Accepts ↔ scan.Accepts := by
  revert goes
  fun_cases LikeScan.step scan <;> intro goes <;> cases goes
  case case2 pattern text retry within _ =>
    rw [accepts_behind, ← Like.percent_iff]
    constructor
    · exact .inl
    · rintro (here | ⟨last, kept, place, later, like⟩)
      · exact here
      · -- The pattern behind the earlier `%` reaches this one, whose run may be longer.
        obtain ⟨left, part, onward⟩ := sound last kept place (later.trans (List.tail_suffix _)) like
        obtain ⟨place, inside, like⟩ := Like.percent_iff.mp onward
        exact Like.percent_iff.mpr ⟨place, inside.trans part, like⟩
  case case3 pattern c text retry within _ rest fits =>
    exact or_congr_left ⟨Like.of_rest fits, Like.rest_of fits⟩
  case case4 pattern c text single misfit last within _ =>
    rw [accepts_behind]
    constructor
    · rintro ⟨place, inside, like⟩
      exact .inr ⟨last, rfl, place, inside, like⟩
    · rintro (here | ⟨_, ⟨⟩, found⟩)
      · exact absurd here (Like.not_of_misfit misfit single)
      · exact found

theorem step_answer (sound : scan.Sound) {answer : Bool} (answers : scan.step = .inl answer) :
    answer ↔ scan.Accepts := by
  revert answers
  fun_cases LikeScan.step scan <;> intro answers <;> cases answers
  case case1 pattern retry within =>
    rw [← Like.nil_iff]
    constructor
    · exact .inl
    · rintro (here | ⟨last, kept, place, later, like⟩)
      · exact here
      · obtain ⟨left, part, onward⟩ := sound last kept place (later.trans (List.tail_suffix _)) like
        rw [List.suffix_nil.mp part] at onward
        exact onward
  case case5 pattern c text single misfit within _ =>
    constructor
    · intro impossible
      cases impossible
    · rintro (here | ⟨last, kept, _⟩)
      · exact absurd here (Like.not_of_misfit misfit single)
      · cases kept

theorem run_iff (sound : scan.Sound) : scan.run ↔ scan.Accepts := by
  induction scan using run.induct with
  | case1 scan answer answers =>
    rw [run, answers]
    exact step_answer sound answers
  | case2 scan next goes ih =>
    rw [run, goes]
    exact (ih (sound.step goes)).trans (step_accepts sound goes)

/-- The scan has its answer after so many rounds. -/
inductive Settles : LikeScan → Nat → Bool → Prop
  | answer {scan : LikeScan} {answer : Bool} (answers : scan.step = .inl answer) : Settles scan 1 answer
  | round {scan next : LikeScan} {rounds : Nat} {answer : Bool} (goes : scan.step = .inr next)
      (others : Settles next rounds answer) : Settles scan (rounds + 1) answer

/-- No pattern of the scan is longer than the given length. -/
structure Narrow (width : Nat) (scan : LikeScan) : Prop where
  pattern : scan.pattern.length ≤ width
  retry : ∀ last ∈ scan.retry, last.pattern.length ≤ width

theorem Narrow.step {width : Nat} (narrow : scan.Narrow width) (goes : scan.step = .inr next) : next.Narrow width := by
  revert goes
  fun_cases LikeScan.step scan <;> intro goes <;> cases goes
  case case2 pattern text retry within _ =>
    have shorter : pattern.length ≤ width := Nat.le_of_succ_le narrow.pattern
    exact ⟨shorter, fun last kept => Option.some.inj kept ▸ shorter⟩
  case case3 pattern c text retry within _ rest fits =>
    exact ⟨Nat.le_trans (Nat.le_of_lt (likeRest?_length_lt fits)) narrow.pattern, narrow.retry⟩
  case case4 pattern c text _ _ last within _ =>
    have short := narrow.retry last rfl
    exact ⟨short, fun last kept => Option.some.inj kept ▸ short⟩

/-- The pattern is gone through at most once for each place of the last `%`. -/
theorem run_settles {width : Nat} (narrow : scan.Narrow width) :
    ∃ rounds ≤ scan.bound.1 * (width + 1) + scan.pattern.length + 1, scan.Settles rounds scan.run := by
  induction scan using run.induct with
  | case1 scan answer answers =>
    rw [run, answers]
    exact ⟨1, Nat.le_add_left _ _, .answer answers⟩
  | case2 scan next goes ih =>
    rw [run, goes]
    have kept := narrow.step goes
    obtain ⟨rounds, few, settles⟩ := ih kept
    refine ⟨rounds + 1, Nat.succ_le_succ (Nat.le_trans few ?_), .round goes settles⟩
    have less := step_bound_lt goes
    rw [Prod.lex_def] at less
    rcases less with shorter | ⟨same, used⟩
    · have fewer := Nat.mul_le_mul_right (width + 1) shorter
      have short := kept.pattern
      rw [Nat.succ_mul] at fewer
      omega
    · have shorter : next.pattern.length < scan.pattern.length := used
      rw [same]
      omega

end LikeScan

/-- The matcher finds a text like a pattern exactly if the pattern says so. -/
theorem likeMatches_iff (text pattern : String) : likeMatches text pattern ↔ Like pattern.toList text.toList := by
  unfold likeMatches
  rw [LikeScan.run_iff (LikeScan.sound_start _ _), LikeScan.accepts_start]

theorem likeMatches_eq (text pattern : String) :
    likeMatches text pattern = patternAccepts pattern.toList text.toList := by
  rw [Bool.eq_iff_iff, likeMatches_iff, patternAccepts_iff]

/-- The matcher is done after a number of rounds that pattern and text bound, and its answer is what the pattern
says. -/
theorem likeMatches_settles (text pattern : String) :
    (∃ rounds ≤ (text.length + 2) * (pattern.length + 1),
      (LikeScan.start pattern.toList text.toList).Settles rounds (likeMatches text pattern)) ∧
      (likeMatches text pattern ↔ Like pattern.toList text.toList) := by
  refine ⟨?_, likeMatches_iff text pattern⟩
  have narrow : (LikeScan.start pattern.toList text.toList).Narrow pattern.length :=
    ⟨Nat.le_of_eq (String.length_toList ..), nofun⟩
  obtain ⟨rounds, few, settles⟩ := LikeScan.run_settles narrow
  refine ⟨rounds, Nat.le_trans few ?_, settles⟩
  change (text.toList.length + 1) * (pattern.length + 1) + pattern.toList.length + 1 ≤ _
  rw [String.length_toList, String.length_toList, Nat.add_assoc, ← Nat.succ_mul]

end LeaseQueue
