import Mathlib.Algebra.Order.Ring.Rat
import Mathlib.Data.List.Nodup
import Mathlib.Order.WithBot
import Mathlib.Tactic.SplitIfs
import QueryHints.Search.Rank

namespace QueryHints

namespace Binary64

/-- The place of a number between the two infinities. What is no number has no place of its own. -/
def extended : Binary64 → WithBot (WithTop Rat)
  | nan => ⊥
  | infinite negative => if negative then ⊥ else ⊤
  | finite negative m e => (((finite negative m e).toRat?.getD 0 : Rat) : WithTop Rat)

/-- Numbers are ordered as their places are. -/
theorem lt_iff_extended_lt (a b : Binary64) (ha : a ≠ nan) (hb : b ≠ nan) :
    a.lt b = true ↔ a.extended < b.extended := by
  cases a with
  | nan => exact absurd rfl ha
  | infinite s =>
    cases b with
    | nan => exact absurd rfl hb
    | infinite t => cases s <;> cases t <;> simp [lt, extended]
    | finite t n f => cases s <;> simp [lt, extended]
  | finite s m e =>
    cases b with
    | nan => exact absurd rfl hb
    | infinite t =>
      cases t with
      | true => simp [lt, extended]
      | false =>
        simp only [lt, extended, Bool.not_false, Bool.false_eq_true, if_false, true_iff]
        exact WithBot.coe_lt_coe.mpr (WithTop.coe_lt_top _)
    | finite t n f => simp [lt, extended, toRat?]

theorem round_ne_nan (negative : Bool) (num den : Nat) : round negative num den ≠ nan := by
  unfold round
  dsimp only
  split_ifs <;> simp

theorem binaryOrder_one_le (den : Nat) : binaryOrder 1 den ≤ 0 := by
  have hlog : Nat.log2 1 = 0 := by decide
  unfold binaryOrder
  rw [hlog]
  dsimp only
  split_ifs <;> simp

/-- A reciprocal is at most one, and numbers overflow only from an exponent of 972 on. -/
theorem round_one_finite (negative : Bool) (den : Nat) :
    ∃ m e, round negative 1 den = finite negative m e := by
  have hsmall := binaryOrder_one_le den
  unfold round
  dsimp only
  rw [if_neg Nat.one_ne_zero]
  split_ifs with hm hlarge hlarge
  · dsimp only at hlarge
    omega
  · exact ⟨_, _, rfl⟩
  · dsimp only at hlarge
    omega
  · exact ⟨_, _, rfl⟩

/-- Only two infinities of opposite sign add up to no number. -/
theorem add_finite_ne_nan (a : Binary64) (ha : a ≠ nan) (negative : Bool) (m : Nat) (e : Int) :
    a.add (finite negative m e) ≠ nan := by
  cases a with
  | nan => exact absurd rfl ha
  | infinite s => simp [add]
  | finite s n f =>
    by_cases hz : (n = 0 && m = 0) = true
    · simp [add, hz]
    · simp only [add, hz, toRat?]
      exact round_ne_nan _ _ _

end Binary64

namespace Search

/-- Every candidate has a score that can be compared. -/
theorem score_ne_nan (fragment candidate : Text) : score fragment candidate ≠ .nan := by
  have hb : brevity candidate = ⟨1, 1 + candidate.length, by omega, Nat.gcd_one_left _⟩ :=
    (Rat.mk_eq_mkRat _ _ _ _).symm
  obtain ⟨m, e, hround⟩ := Binary64.round_one_finite (brevity candidate < 0) (1 + candidate.length)
  have hbrevity : Binary64.ofRat (brevity candidate) = .finite (brevity candidate < 0) m e := by
    rw [← hround, Binary64.ofRat, hb]
    rfl
  rw [score, hbrevity]
  exact Binary64.add_finite_ne_nan _ (Binary64.round_ne_nan _ _ _) _ m e

/-- A fragment admits a text: a bare trigger admits every one, a fragment with a NUL character none, and any
other those in which its pattern is found. -/
def Admits (fragment text : Text) : Prop :=
  isBare fragment = true ∨
    Letter.ofCode 0 ∉ fragment ∧ (Pattern.ofLetters fragment).hits text = true

/-- Under a bare trigger texts ascend. Otherwise the higher score comes first, and of texts with the same
score the lesser one. -/
def ComesBefore (fragment a b : Text) : Prop :=
  if isBare fragment then a < b
  else (score fragment b).lt (score fragment a) = true ∨
    (score fragment a).lt (score fragment b) = false ∧
      (score fragment b).lt (score fragment a) = false ∧ a < b

section Sorting

variable {σ V : Type} [LinearOrder V] (less : σ → σ → Bool) (score : Text → σ) (value : σ → V)

def sorted (candidates : List Text) : List Text :=
  candidates.mergeSort fun a b => Ranked.precedes less ⟨a, score a⟩ ⟨b, score b⟩

theorem rows_mergeSort (candidates : List Text) :
    (candidates.map fun c => (⟨c, score c⟩ : Ranked σ)).mergeSort (Ranked.precedes less) =
      (sorted less score candidates).map fun c => ⟨c, score c⟩ := by
  have hmap := List.map_mergeSort (l := candidates) (f := fun c => (⟨c, score c⟩ : Ranked σ))
    (r := fun a b => Ranked.precedes less ⟨a, score a⟩ ⟨b, score b⟩) (s := Ranked.precedes less)
    fun _ _ _ _ => rfl
  exact hmap.symm

theorem texts_rows (texts : List Text) :
    (texts.map fun c => (⟨c, score c⟩ : Ranked σ)).map (·.text) = texts := by
  rw [List.map_map]
  exact List.map_id _

variable (hless : ∀ a b, less (score a) (score b) = true ↔ value (score a) < value (score b))

include hless

theorem precedes_iff (a b : Text) :
    Ranked.precedes less ⟨a, score a⟩ ⟨b, score b⟩ = true ↔
      value (score b) < value (score a) ∨ value (score b) ≤ value (score a) ∧ a ≤ b := by
  simp only [Ranked.precedes, Bool.or_eq_true, Bool.and_eq_true, Bool.not_eq_true',
    decide_eq_true_eq, hless, ← Bool.not_eq_true, not_lt]

/-- Where values order the scores, sorting orders the texts: earlier ones have the greater value, or the
same value and the lesser text. -/
theorem pairwise_sorted (candidates : List Text) :
    (sorted less score candidates).Pairwise fun a b =>
      Ranked.precedes less ⟨a, score a⟩ ⟨b, score b⟩ = true := by
  apply List.pairwise_mergeSort
  · intro a b c hab hbc
    rw [precedes_iff less score value hless] at hab hbc ⊢
    rcases hab with hab | ⟨hab, hle⟩
    · rcases hbc with hbc | ⟨hbc, -⟩
      · exact Or.inl (hbc.trans hab)
      · exact Or.inl (hbc.trans_lt hab)
    · rcases hbc with hbc | ⟨hbc, hle'⟩
      · exact Or.inl (hbc.trans_le hab)
      · exact Or.inr ⟨hbc.trans hab, List.le_trans hle hle'⟩
  · intro a b
    rw [Bool.or_eq_true, precedes_iff less score value hless, precedes_iff less score value hless]
    rcases lt_trichotomy (value (score a)) (value (score b)) with h | h | h
    · exact Or.inr (Or.inl h)
    · rcases List.le_total a b with hle | hle
      · exact Or.inl (Or.inr ⟨h.ge, hle⟩)
      · exact Or.inr (Or.inr ⟨h.le, hle⟩)
    · exact Or.inl (Or.inl h)

/-- The order of the candidates does not matter: equal places are taken by equal texts only. -/
theorem sorted_eq_of_perm (candidates others : List Text) (h : candidates.Perm others) :
    sorted less score candidates = sorted less score others := by
  refine List.Perm.eq_of_pairwise ?_ (pairwise_sorted less score value hless candidates)
    (pairwise_sorted less score value hless others)
    ((List.mergeSort_perm _ _).trans (h.trans (List.mergeSort_perm _ _).symm))
  intro a b _ _ hab hba
  rw [precedes_iff less score value hless] at hab hba
  rcases hab with hab | ⟨hle, hab⟩
  · rcases hba with hba | ⟨hba, -⟩
    · exact absurd hab hba.not_gt
    · exact absurd hab hba.not_gt
  · rcases hba with hba | ⟨-, hba⟩
    · exact absurd hba hle.not_gt
    · exact List.le_antisymm hab hba

end Sorting

section Outcomes

variable {σ : Type} (unscored : σ) (less : σ → σ → Bool) (score : Text → Text → σ)
variable (fragment : Text) (candidates : List Text)

theorem rankBy_bare (hb : isBare fragment = true) :
    rankBy unscored less score fragment candidates = .ok (candidates.map fun c => ⟨c, unscored⟩) := by
  rw [rankBy, if_pos hb]

theorem rankBy_nul (hb : ¬ isBare fragment = true) (hn : Letter.ofCode 0 ∈ fragment) :
    rankBy unscored less score fragment candidates = .error .nul := by
  rw [rankBy, if_neg hb, Pattern.ofFragment, if_pos (List.contains_iff_mem.mpr hn)]

theorem rankBy_typed (hb : ¬ isBare fragment = true) (hn : Letter.ofCode 0 ∉ fragment) :
    rankBy unscored less score fragment candidates =
      .ok ((sorted less (score fragment) (candidates.filter (Pattern.ofLetters fragment).hits)).map
        fun c => ⟨c, score fragment c⟩) := by
  rw [rankBy, if_neg hb, Pattern.ofFragment, if_neg (mt List.contains_iff_mem.mp hn)]
  dsimp only
  rw [rows_mergeSort]

end Outcomes

def rankedTexts (fragment : Text) (candidates : List Text) : List Text :=
  match rank fragment candidates with
  | .error _ => []
  | .ok ranked => ranked.map (·.text)

section Ranking

variable (fragment : Text) (candidates : List Text)

theorem rankedTexts_bare (hb : isBare fragment = true) :
    rankedTexts fragment candidates = candidates := by
  rw [rankedTexts, rank, rankBy_bare _ _ _ _ _ hb]
  exact texts_rows (fun _ => Binary64.ofInt 0) candidates

theorem rankedTexts_nul (hb : ¬ isBare fragment = true) (hn : Letter.ofCode 0 ∈ fragment) :
    rankedTexts fragment candidates = [] := by
  rw [rankedTexts, rank, rankBy_nul _ _ _ _ _ hb hn]

theorem rankedTexts_typed (hb : ¬ isBare fragment = true) (hn : Letter.ofCode 0 ∉ fragment) :
    rankedTexts fragment candidates = sorted Binary64.lt (score fragment)
      (candidates.filter (Pattern.ofLetters fragment).hits) := by
  rw [rankedTexts, rank, rankBy_typed _ _ _ _ _ hb hn]
  exact texts_rows (score fragment) _

/-- A ranking has those of its candidates that the fragment admits. -/
theorem mem_rankedTexts (text : Text) :
    text ∈ rankedTexts fragment candidates ↔ text ∈ candidates ∧ Admits fragment text := by
  by_cases hb : isBare fragment = true
  · rw [rankedTexts_bare fragment candidates hb]
    simp [Admits, hb]
  · by_cases hn : Letter.ofCode 0 ∈ fragment
    · rw [rankedTexts_nul fragment candidates hb hn]
      simp [Admits, hb, hn]
    · rw [rankedTexts_typed fragment candidates hb hn, sorted, List.mem_mergeSort, List.mem_filter]
      simp [Admits, hb, hn]

theorem rankedTexts_nil : rankedTexts fragment [] = [] := by
  apply List.eq_nil_iff_forall_not_mem.mpr
  intro text ht
  exact List.not_mem_nil ((mem_rankedTexts fragment [] text).mp ht).1

theorem nodup_rankedTexts (hc : candidates.Nodup) : (rankedTexts fragment candidates).Nodup := by
  by_cases hb : isBare fragment = true
  · rwa [rankedTexts_bare fragment candidates hb]
  · by_cases hn : Letter.ofCode 0 ∈ fragment
    · rw [rankedTexts_nul fragment candidates hb hn]
      exact List.nodup_nil
    · rw [rankedTexts_typed fragment candidates hb hn]
      exact (List.mergeSort_perm _ _).nodup_iff.mpr (hc.filter _)

theorem comesBefore_of_precedes (hb : ¬ isBare fragment = true) (a b : Text) (hne : a ≠ b)
    (h : Ranked.precedes Binary64.lt ⟨a, score fragment a⟩ ⟨b, score fragment b⟩ = true) :
    ComesBefore fragment a b := by
  rw [ComesBefore, if_neg hb]
  cases hba : (score fragment b).lt (score fragment a) with
  | true => exact Or.inl rfl
  | false =>
    -- neither score is the lesser, so the texts decide, and they differ
    simp only [Ranked.precedes, hba, Bool.false_or, Bool.and_eq_true, Bool.not_eq_true',
      decide_eq_true_eq] at h
    exact Or.inr ⟨h.1, rfl, Std.lt_of_le_of_ne h.2 hne⟩

/-- Ascending candidates without repetition are ranked in the order of an answer. -/
theorem pairwise_rankedTexts (hc : candidates.Pairwise (· < ·)) :
    (rankedTexts fragment candidates).Pairwise (ComesBefore fragment) := by
  by_cases hb : isBare fragment = true
  · rw [rankedTexts_bare fragment candidates hb]
    refine hc.imp ?_
    intro a b hab
    rw [ComesBefore, if_pos hb]
    exact hab
  · by_cases hn : Letter.ofCode 0 ∈ fragment
    · rw [rankedTexts_nul fragment candidates hb hn]
      exact List.Pairwise.nil
    · -- sorted in the weak order and without repetition, hence in the strict one
      have hnodup := nodup_rankedTexts fragment candidates (hc.imp fun hab => Std.ne_of_lt hab)
      rw [rankedTexts_typed fragment candidates hb hn] at hnodup ⊢
      have hsorted := pairwise_sorted Binary64.lt (score fragment) Binary64.extended
        (fun a b => Binary64.lt_iff_extended_lt _ _ (score_ne_nan fragment a) (score_ne_nan fragment b))
        (candidates.filter (Pattern.ofLetters fragment).hits)
      exact hsorted.imp₂ (fun a b h hne => comesBefore_of_precedes fragment hb a b hne h) hnodup

end Ranking

end Search

end QueryHints
