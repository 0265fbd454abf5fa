import Mathlib.Algebra.Order.Field.Basic
import Mathlib.Algebra.Order.Field.Rat
import Mathlib.Data.Rat.Lemmas
import Mathlib.Tactic.Linarith
import QueryHints.Proofs.FragmentWorth
import QueryHints.Proofs.LetterPlacements
import QueryHints.Proofs.RankOrder

namespace QueryHints.Search

section Scores

variable (fragment a b : Text)

theorem brevity_eq : brevity a = 1 / ((a.length : Rat) + 1) := by
  rw [brevity, Rat.mkRat_eq_div]
  push_cast
  rw [add_comm]

theorem brevity_pos : 0 < brevity a := by
  rw [brevity_eq]
  positivity

/-- Brevity never makes up for a point of quality. -/
theorem brevity_lt_one (ha : a ≠ []) : brevity a < 1 := by
  have hlength : (0 : Rat) < a.length := by exact_mod_cast List.length_pos_iff.mpr ha
  rw [brevity_eq, div_lt_one (by positivity)]
  linarith

/-- The shorter text has the greater brevity. -/
theorem brevity_lt_iff : brevity a < brevity b ↔ b.length < a.length := by
  rw [brevity_eq, brevity_eq, one_div_lt_one_div (by positivity) (by positivity)]
  simp

/-- The order of exact scores: a point of quality outweighs any difference in length. -/
theorem exactScore_lt_iff (ha : a ≠ []) (hb : b ≠ []) :
    exactScore fragment a < exactScore fragment b ↔
      qualityOf fragment a < qualityOf fragment b ∨
        qualityOf fragment a = qualityOf fragment b ∧ b.length < a.length := by
  have hapos := brevity_pos a
  have hbpos := brevity_pos b
  have haone := brevity_lt_one a ha
  have hbone := brevity_lt_one b hb
  unfold exactScore
  rcases lt_trichotomy (qualityOf fragment a) (qualityOf fragment b) with hlt | heq | hgt
  · have hstep : (qualityOf fragment a : Rat) + 1 ≤ qualityOf fragment b := by exact_mod_cast hlt
    simp only [hlt, true_or, iff_true]
    linarith
  · simp only [heq, lt_irrefl, false_or, true_and, add_lt_add_iff_left]
    exact brevity_lt_iff a b
  · have hstep : (qualityOf fragment b : Rat) + 1 ≤ qualityOf fragment a := by exact_mod_cast hgt
    simp only [hgt.not_gt, hgt.ne', false_or, false_and, iff_false, not_lt]
    linarith

end Scores

def RanksBefore (fragment a b : Text) : Prop :=
  qualityOf fragment b < qualityOf fragment a ∨
    qualityOf fragment a = qualityOf fragment b ∧ (a.length < b.length ∨ a.length = b.length ∧ a ≤ b)

/-- Among candidates of equal quality the shorter one is not ranked behind, nor is the lesser of equally long ones. -/
theorem not_ranksBefore_of_shorter (fragment a b : Text) (hq : qualityOf fragment a = qualityOf fragment b)
    (h : a.length < b.length ∨ a.length = b.length ∧ a < b) : ¬ RanksBefore fragment b a := by
  rintro (hlt | ⟨-, hlt | ⟨heq, hle⟩⟩)
  · omega
  · omega
  · rcases h with h | ⟨-, h⟩
    · omega
    · exact hle h

section Order

variable (fragment : Text)

/-- The numbers are their own values: exact scores need no other order. -/
theorem exactly_less (a b : Text) :
    decide (exactScore fragment a < exactScore fragment b) = true ↔
      id (exactScore fragment a) < id (exactScore fragment b) :=
  decide_eq_true_iff

/-- Exact scores are compared by quality, then by length, and if equal the texts decide. -/
theorem ranksBefore_iff_precedes (a b : Text) (ha : a ≠ []) (hb : b ≠ []) :
    RanksBefore fragment a b ↔
      Ranked.precedes (fun s t => decide (s < t)) ⟨a, exactScore fragment a⟩ ⟨b, exactScore fragment b⟩ = true := by
  rw [precedes_iff (fun s t => decide (s < t)) (exactScore fragment) id (exactly_less fragment)]
  simp only [id, ← not_lt, exactScore_lt_iff fragment _ _ ha hb, exactScore_lt_iff fragment _ _ hb ha]
  unfold RanksBefore
  by_cases hle : a ≤ b
  · simp only [hle, and_true]
    omega
  · simp only [hle, and_false, or_false]
    omega

/-- Sorting by exact scores puts candidates that have a letter in order. -/
theorem pairwise_ranksBefore (found : List Text) (hfound : ∀ c ∈ found, c ≠ []) :
    (sorted (fun s t => decide (s < t)) (exactScore fragment) found).Pairwise (RanksBefore fragment) := by
  have hsorted := pairwise_sorted (fun s t => decide (s < t)) (exactScore fragment) id (exactly_less fragment) found
  refine hsorted.imp_of_mem ?_
  intro a b ha hb hab
  rw [sorted, List.mem_mergeSort] at ha hb
  exact (ranksBefore_iff_precedes fragment a b (hfound a ha) (hfound b hb)).mpr hab

end Order

/-- How a ranking treats its candidates, whatever the scores: a bare trigger keeps them as they come, a NUL character
is refused, and any other fragment keeps those that its pattern finds, as often as they come and whatever their
order. -/
structure Sifts {σ : Type} (unscored : σ) (fragment : Text)
    (outcome : List Text → Except FragmentFault (List (Ranked σ))) : Prop where
  bare : isBare fragment = true → ∀ candidates, outcome candidates = .ok (candidates.map fun c => ⟨c, unscored⟩)
  refused : ∀ candidates, outcome candidates = .error .nul ↔
    ¬ isBare fragment = true ∧ Letter.ofCode 0 ∈ fragment
  kept : ¬ isBare fragment = true → Letter.ofCode 0 ∉ fragment → ∀ candidates, ∃ ranked,
    outcome candidates = .ok ranked ∧
      (ranked.map (·.text)).Perm (candidates.filter (Pattern.ofLetters fragment).hits) ∧
      ∀ others, candidates.Perm others → outcome others = .ok ranked

section Sifting

variable {σ V : Type} [LinearOrder V] (unscored : σ) (less : σ → σ → Bool) (score : Text → Text → σ) (value : σ → V)

/-- Which candidates are left does not depend on the scores. -/
theorem sifts_rankBy (fragment : Text)
    (hless : ∀ a b, less (score fragment a) (score fragment b) = true ↔
      value (score fragment a) < value (score fragment b)) :
    Sifts unscored fragment (rankBy unscored less score fragment) where
  bare hb candidates := rankBy_bare unscored less score fragment candidates hb
  refused candidates := by
    constructor
    · intro h
      by_cases hb : isBare fragment = true
      · rw [rankBy_bare _ _ _ _ _ hb] at h
        cases h
      · refine ⟨hb, ?_⟩
        by_contra hn
        rw [rankBy_typed _ _ _ _ _ hb hn] at h
        cases h
    · rintro ⟨hb, hn⟩
      exact rankBy_nul unscored less score fragment candidates hb hn
  kept hb hn candidates := by
    refine ⟨_, rankBy_typed unscored less score fragment candidates hb hn, ?_, ?_⟩
    · rw [texts_rows]
      exact List.mergeSort_perm _ _
    · intro others hperm
      rw [rankBy_typed _ _ _ _ _ hb hn]
      rw [sorted_eq_of_perm less (score fragment) value hless _ _ (hperm.filter _)]

end Sifting

section Exact

variable (fragment : Text) (candidates : List Text)

/-- The pattern of a typed fragment is not found in an empty text. -/
theorem ne_nil_of_hits (hb : ¬ isBare fragment = true) (c : Text)
    (hc : (Pattern.ofLetters fragment).hits c = true) : c ≠ [] := by
  rintro rfl
  cases sublistForall₂_of_hits fragment [] hc with
  | nil => exact hb rfl

/-- What ranks by exact scores: each row carries its score, the texts are those that the pattern finds, and they
stand in order. -/
structure ExactRanking (ranked : List (Ranked Rat)) : Prop where
  scored : ∀ row ∈ ranked, row.score = exactScore fragment row.text
  texts : (ranked.map (·.text)).Perm (candidates.filter (Pattern.ofLetters fragment).hits)
  ordered : (ranked.map (·.text)).Pairwise (RanksBefore fragment)

theorem rankExact_ranks (hb : ¬ isBare fragment = true) (hn : Letter.ofCode 0 ∉ fragment) :
    ∃ ranked, rankExact fragment candidates = .ok ranked ∧ ExactRanking fragment candidates ranked := by
  refine ⟨_, rankBy_typed 0 (fun s t => decide (s < t)) exactScore fragment candidates hb hn, ?_, ?_, ?_⟩
  · intro row hrow
    obtain ⟨c, -, rfl⟩ := List.mem_map.mp hrow
    rfl
  · rw [texts_rows]
    exact List.mergeSort_perm _ _
  · rw [texts_rows]
    apply pairwise_ranksBefore
    intro c hc
    exact ne_nil_of_hits fragment hb c (List.mem_filter.mp hc).2

end Exact

/-- A ranking sifts its candidates, by exact scores and by rounded ones alike. By exact scores the rows come by
quality, then by length, then by text. -/
theorem rank_by_quality_length_text (fragment : Text) :
    Sifts 0 fragment (rankExact fragment) ∧ Sifts (Binary64.ofInt 0) fragment (rank fragment) ∧
      ∀ candidates ranked, ¬ isBare fragment = true → rankExact fragment candidates = .ok ranked →
        (∀ row ∈ ranked, row.score = exactScore fragment row.text) ∧
          (ranked.map (·.text)).Pairwise (RanksBefore fragment) := by
  refine ⟨?_, ?_, ?_⟩
  · exact sifts_rankBy 0 (fun s t => decide (s < t)) exactScore id fragment (exactly_less fragment)
  · exact sifts_rankBy (Binary64.ofInt 0) Binary64.lt score Binary64.extended fragment fun a b =>
      Binary64.lt_iff_extended_lt _ _ (score_ne_nan fragment a) (score_ne_nan fragment b)
  · intro candidates ranked hb hranked
    by_cases hn : Letter.ofCode 0 ∈ fragment
    · rw [rankExact, rankBy_nul _ _ _ _ _ hb hn] at hranked
      cases hranked
    · obtain ⟨rows, hrows, hexact⟩ := rankExact_ranks fragment candidates hb hn
      rw [hrows] at hranked
      cases hranked
      exact ⟨hexact.scored, hexact.ordered⟩

/-- Two names and a scattered match, one name twice. -/
theorem rank_by_quality_length_text_names :
    ¬ isBare "name" = true ∧ Letter.ofCode 0 ∉ Text.of "name" ∧
    ∃ ranked, rankExact "name" [":n_a_m_e", ":user/name", ":user/id", ":b/name", ":user/name"] = .ok ranked ∧
      (ranked.map Ranked.text).Perm
        [Text.of ":n_a_m_e", Text.of ":user/name", Text.of ":b/name", Text.of ":user/name"] ∧
      (ranked.map Ranked.text).Pairwise (RanksBefore "name") ∧
      rankExact "name" [":b/name", ":user/name", ":n_a_m_e", ":user/name", ":user/id"] = .ok ranked := by
  have hb : ¬ isBare "name" = true := by decide
  have hn : Letter.ofCode 0 ∉ Text.of "name" := by decide
  obtain ⟨hsifts, -, hexact⟩ := rank_by_quality_length_text "name"
  obtain ⟨ranked, hranked, hperm, hothers⟩ :=
    hsifts.kept hb hn [":n_a_m_e", ":user/name", ":user/id", ":b/name", ":user/name"]
  refine ⟨hb, hn, ranked, hranked, ?_, (hexact _ ranked hb hranked).2, ?_⟩
  · refine hperm.trans (List.Perm.of_eq ?_)
    decide +kernel
  · apply hothers
    decide +kernel

/-- Both texts are in the list, and every place of the first is before every place of the second. -/
structure Leads (texts : List Text) (a b : Text) : Prop where
  mem : a ∈ texts
  mem_later : b ∈ texts
  before : ∀ i j : Nat, texts[i]? = some a → texts[j]? = some b → i < j

theorem Leads.asymm {texts : List Text} {a b : Text} (h : Leads texts a b) : ¬ Leads texts b a := by
  intro hback
  obtain ⟨i, hi⟩ := List.mem_iff_getElem?.mp h.mem
  obtain ⟨j, hj⟩ := List.mem_iff_getElem?.mp h.mem_later
  have hij := h.before i j hi hj
  have hji := hback.before j i hj hi
  omega

section Leading

variable (fragment : Text) (candidates : List Text) (ranked : List (Ranked Rat))
  (h : ExactRanking fragment candidates ranked)

include h

theorem mem_ranked (c : Text) :
    c ∈ ranked.map (·.text) ↔ c ∈ candidates ∧ (Pattern.ofLetters fragment).hits c = true := by
  rw [h.texts.mem_iff, List.mem_filter]

/-- A candidate leads every other one that does not rank before it. -/
theorem leads_of_not_ranksBefore (a b : Text) (ha : a ∈ ranked.map (·.text)) (hb : b ∈ ranked.map (·.text))
    (hne : a ≠ b) (hnot : ¬ RanksBefore fragment b a) : Leads (ranked.map (·.text)) a b := by
  refine ⟨ha, hb, ?_⟩
  intro i j hi hj
  obtain ⟨hilt, hieq⟩ := List.getElem?_eq_some_iff.mp hi
  obtain ⟨hjlt, hjeq⟩ := List.getElem?_eq_some_iff.mp hj
  rcases Nat.lt_trichotomy i j with hlt | rfl | hgt
  · exact hlt
  · rw [hi, Option.some.injEq] at hj
    exact absurd hj hne
  · have hbefore := List.pairwise_iff_getElem.mp h.ordered j i hjlt hilt hgt
    rw [hieq, hjeq] at hbefore
    exact absurd hbefore hnot

end Leading

/-- A candidate whose fold contains the folded fragment leads one whose fold does not, if that one's fold still has
the letters in order, or if the first occurrence starts a word. Where only the pattern sees the fragment in the other
one and no occurrence starts a word, both are worth the same, and the shorter or lesser text leads. -/
theorem contiguous_leads_scattered (fragment : Text) (candidates : List Text) (a b : Text)
    (hb : ¬ isBare fragment = true) (hn : Letter.ofCode 0 ∉ fragment)
    (ha : a ∈ candidates) (hfound : (Pattern.ofLetters fragment).hits a = true)
    (hother : b ∈ candidates) (hfound' : (Pattern.ofLetters fragment).hits b = true)
    (hin : fragment.fold <:+: a.fold) (hout : ¬ fragment.fold <:+: b.fold) :
    ∃ ranked, rankExact fragment candidates = .ok ranked ∧
      (fragment.fold.Sublist b.fold → Leads (ranked.map (·.text)) a b) ∧
      (∀ first, IsLeast (occurrences fragment.fold a.fold) first → startsWord a.fold first = true →
        Leads (ranked.map (·.text)) a b) ∧
      (¬ fragment.fold.Sublist b.fold → (∀ i ∈ occurrences fragment.fold a.fold, startsWord a.fold i = false) →
        (a.length < b.length ∨ a.length = b.length ∧ a < b → Leads (ranked.map (·.text)) a b) ∧
        (b.length < a.length ∨ b.length = a.length ∧ b < a → Leads (ranked.map (·.text)) b a)) := by
  obtain ⟨ranked, hranked, hexact⟩ := rankExact_ranks fragment candidates hb hn
  have hmem := (mem_ranked fragment candidates ranked hexact a).mpr ⟨ha, hfound⟩
  have hmem' := (mem_ranked fragment candidates ranked hexact b).mpr ⟨hother, hfound'⟩
  have hne : a ≠ b := by
    rintro rfl
    exact hout hin
  have hleads (c d : Text) := leads_of_not_ranksBefore fragment candidates ranked hexact c d
  have hfloor : 2 * (fragment.fold.length : Int) ≤ qualityOf fragment a := (quality_of_occurs _ _ hin).1
  have hceiling : qualityOf fragment b ≤ 2 * fragment.fold.length := quality_le_of_apart _ _ hout
  have hbetter (hlt : qualityOf fragment b < qualityOf fragment a) : Leads (ranked.map (·.text)) a b := by
    apply hleads a b hmem hmem' hne
    unfold RanksBefore
    omega
  refine ⟨ranked, hranked, ?_, ?_, ?_⟩
  · intro hsub
    have hscattered : qualityOf fragment b < 2 * fragment.fold.length := quality_lt_of_scattered _ _ hout hsub
    exact hbetter (by omega)
  · intro first hfirst hword
    have hquality : qualityOf fragment a = 2 * fragment.fold.length + if startsWord a.fold first then 1 else 0 :=
      quality_of_first _ _ first hfirst
    rw [hword, if_pos rfl] at hquality
    exact hbetter (by omega)
  · intro hunseen hinside
    have hquality : qualityOf fragment a = qualityOf fragment b := by
      obtain ⟨first, hfirst⟩ := exists_first _ _ hin
      calc qualityOf fragment a
          = 2 * fragment.fold.length + if startsWord a.fold first then 1 else 0 := quality_of_first _ _ first hfirst
        _ = 2 * fragment.fold.length := by simp [hinside first hfirst.1]
        _ = qualityOf fragment b := (quality_of_unseen _ _ hunseen).symm
    constructor
    · intro hshorter
      exact hleads a b hmem hmem' hne (not_ranksBefore_of_shorter fragment a b hquality hshorter)
    · intro hshorter
      exact hleads b a hmem' hmem hne.symm (not_ranksBefore_of_shorter fragment b a hquality.symm hshorter)

/-- A name in one piece leads the same letters scattered. -/
theorem contiguous_leads_scattered_name :
    ¬ isBare "name" = true ∧ Letter.ofCode 0 ∉ Text.of "name" ∧
      (Pattern.ofLetters "name").hits ":account/name" = true ∧ (Pattern.ofLetters "name").hits ":n_a_m_e" = true ∧
      Text.fold "name" <:+: Text.fold ":account/name" ∧ ¬ Text.fold "name" <:+: Text.fold ":n_a_m_e" ∧
      ∃ ranked, rankExact "name" [":n_a_m_e", ":account/name"] = .ok ranked ∧
        Leads (ranked.map Ranked.text) ":account/name" ":n_a_m_e" := by
  have hb : ¬ isBare "name" = true := by decide
  have hn : Letter.ofCode 0 ∉ Text.of "name" := by decide
  have hfound : (Pattern.ofLetters "name").hits ":account/name" = true := by decide +kernel
  have hfound' : (Pattern.ofLetters "name").hits ":n_a_m_e" = true := by decide +kernel
  have hin : Text.fold "name" <:+: Text.fold ":account/name" := by decide +kernel
  have hout : ¬ Text.fold "name" <:+: Text.fold ":n_a_m_e" := by decide +kernel
  obtain ⟨ranked, hranked, hsub, -⟩ := contiguous_leads_scattered "name" [":n_a_m_e", ":account/name"]
    ":account/name" ":n_a_m_e" hb hn (by simp) hfound (by simp) hfound' hin hout
  exact ⟨hb, hn, hfound, hfound', hin, hout, ranked, hranked, hsub (by decide +kernel)⟩

/-- A dotless i is found in a dotted one, which folding keeps apart from it; and the single letter leads a longer
candidate that contains the fragment. -/
theorem lookalike_leads_contiguous :
    ¬ isBare "ı" = true ∧ Letter.ofCode 0 ∉ Text.of "ı" ∧
      (Pattern.ofLetters "ı").hits "xı" = true ∧ (Pattern.ofLetters "ı").hits "i" = true ∧
      Text.fold "ı" <:+: Text.fold "xı" ∧ ¬ Text.fold "ı" <:+: Text.fold "i" ∧
      ∃ ranked, rankExact "ı" ["xı", "i"] = .ok ranked ∧
        Leads (ranked.map Ranked.text) "i" "xı" ∧ ¬ Leads (ranked.map Ranked.text) "xı" "i" := by
  have hb : ¬ isBare "ı" = true := by decide
  have hn : Letter.ofCode 0 ∉ Text.of "ı" := by decide
  have hfound : (Pattern.ofLetters "ı").hits "xı" = true := by decide +kernel
  have hfound' : (Pattern.ofLetters "ı").hits "i" = true := by decide +kernel
  obtain ⟨ranked, hranked, hexact⟩ := rankExact_ranks "ı" ["xı", "i"] hb hn
  have hlong := (mem_ranked _ _ ranked hexact "xı").mpr ⟨by simp, hfound⟩
  have hshort := (mem_ranked _ _ ranked hexact "i").mpr ⟨by simp, hfound'⟩
  have hquality : qualityOf "ı" "i" = qualityOf "ı" "xı" := by decide +kernel
  have hleads : Leads (ranked.map Ranked.text) "i" "xı" :=
    leads_of_not_ranksBefore _ _ ranked hexact "i" "xı" hshort hlong (by decide)
      (not_ranksBefore_of_shorter "ı" "i" "xı" hquality (by decide))
  refine ⟨hb, hn, hfound, hfound', by decide +kernel, by decide +kernel, ranked, hranked, hleads, ?_⟩
  exact hleads.asymm

/-- A name that is typed in full is found, and what comes first is as long as it and like it letter by letter. -/
theorem typed_name_first (fragment : Text) (candidates : List Text) (hb : ¬ isBare fragment = true)
    (hn : Letter.ofCode 0 ∉ fragment) (hmem : fragment ∈ candidates) :
    ∃ first later, rankExact fragment candidates = .ok (first :: later) ∧ first.text ∈ candidates ∧
      first.text.length = fragment.length ∧
      List.Forall₂ (fun a b => Text.alike a b = true) fragment first.text := by
  obtain ⟨ranked, hranked, hexact⟩ := rankExact_ranks fragment candidates hb hn
  have htyped := (mem_ranked fragment candidates ranked hexact fragment).mpr ⟨hmem, hits_self fragment⟩
  cases ranked with
  | nil => cases htyped
  | cons first later =>
    obtain ⟨hcandidate, hfound⟩ := (mem_ranked fragment candidates _ hexact first.text).mp List.mem_cons_self
    -- nothing is better than the fragment itself, so the first candidate is no longer than it
    have hshort : first.text.length ≤ fragment.length := by
      rcases List.mem_cons.mp htyped with heq | hlater
      · exact (congrArg List.length heq).ge
      · have hbest : qualityOf fragment fragment = 2 * fragment.fold.length + 1 := quality_self _
        have hle : qualityOf fragment first.text ≤ 2 * fragment.fold.length + 1 := quality_le _ _
        have hbefore : RanksBefore fragment first.text fragment :=
          (List.pairwise_cons.mp hexact.ordered).1 fragment hlater
        rcases hbefore with hlt | ⟨-, hlt | ⟨heq, -⟩⟩
        · omega
        · exact hlt.le
        · exact heq.le
    -- it holds a letter like each of the fragment's, so it is no shorter, and these are all its letters
    obtain ⟨part, hpart, hsub⟩ := List.sublistForall₂_iff.mp (sublistForall₂_of_hits fragment first.text hfound)
    have hlong : fragment.length ≤ first.text.length := hpart.length_eq.le.trans hsub.length_le
    have hlength : first.text.length = fragment.length := Nat.le_antisymm hshort hlong
    have hwhole : part = first.text := hsub.eq_of_length (hpart.length_eq.symm.trans hlength.symm)
    rw [hwhole] at hpart
    exact ⟨first, later, hranked, hcandidate, hlength, hpart⟩

/-- Of a name, its capitals and a longer name, one of the first two comes first. -/
theorem typed_name_first_capitals :
    ¬ isBare "name" = true ∧ Letter.ofCode 0 ∉ Text.of "name" ∧
      ∃ first later, rankExact "name" ["name/name", "name", "NAME"] = .ok (first :: later) ∧
        first.text ∈ [Text.of "name/name", Text.of "name", Text.of "NAME"] ∧ first.text.length = 4 ∧
        List.Forall₂ (fun a b => Text.alike a b = true) "name" first.text := by
  have hb : ¬ isBare "name" = true := by decide
  have hn : Letter.ofCode 0 ∉ Text.of "name" := by decide
  obtain ⟨first, later, hranked, hfirst⟩ := typed_name_first "name" ["name/name", "name", "NAME"] hb hn (by simp)
  exact ⟨hb, hn, first, later, hranked, hfirst⟩

end QueryHints.Search
