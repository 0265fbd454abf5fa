import Mathlib.Data.List.Sort
import QueryHints.Schema.Name

namespace QueryHints

namespace Text

theorem pairwise_lt_mergeSort (texts : List Text) (hn : texts.Nodup) :
    (texts.mergeSort fun a b => a ≤ b).Pairwise (· < ·) := by
  have hsorted : (texts.mergeSort fun a b => a ≤ b).Pairwise fun a b => decide (a ≤ b) = true := by
    apply List.pairwise_mergeSort
    · intro a b c hab hbc
      simp only [decide_eq_true_eq] at hab hbc ⊢
      exact List.le_trans hab hbc
    · intro a b
      simp only [Bool.or_eq_true, decide_eq_true_eq]
      exact List.le_total a b
  have hnodup := (List.mergeSort_perm texts fun a b => a ≤ b).nodup_iff.mpr hn
  refine hsorted.imp₂ ?_ hnodup
  intro a b hab hne
  exact Std.lt_of_le_of_ne (of_decide_eq_true hab) hne

/-- Different texts in ascending order are determined by which texts they are. -/
theorem mergeSort_eq_of_mem_iff (texts others : List Text) (hn : texts.Nodup) (ho : others.Nodup)
    (hmem : ∀ s, s ∈ texts ↔ s ∈ others) :
    (texts.mergeSort fun a b => a ≤ b) = others.mergeSort fun a b => a ≤ b := by
  apply (pairwise_lt_mergeSort texts hn).eq_of_mem_iff (pairwise_lt_mergeSort others ho)
  intro s
  rw [List.mem_mergeSort, List.mem_mergeSort, hmem]

end Text

theorem Name.same_text (name : Name) (s : Text) : name.same (.text s) = true ↔ name = .text s := by
  cases name with
  | text t => simp [same, number?]
  | null => simp [same, number?]
  | bool b => simp [same, number?]
  | int n => simp [same, number?]
  | real x => cases hx : x.toRat? <;> simp [same, number?, hx]

namespace Names

theorem has_text (names : Names) (s : Text) : names.has (.text s) = true ↔ .text s ∈ names := by
  simp only [has, List.any_eq_true, Name.same_text]
  constructor
  · rintro ⟨name, hn, rfl⟩
    exact hn
  · intro h
    exact ⟨.text s, h, rfl⟩

/-- Inserting a text into different texts leaves different texts. -/
theorem insert_map_text (keys : List Text) (hk : keys.Nodup) (s : Text) :
    ∃ next : List Text, next.Nodup ∧ (∀ key, key ∈ next ↔ key ∈ keys ∨ key = s) ∧
      Names.insert (keys.map Name.text) (.text s) = next.map .text := by
  have hhas : Names.has (keys.map Name.text) (.text s) = true ↔ s ∈ keys := by
    rw [has_text]
    simp
  by_cases hs : s ∈ keys
  · refine ⟨keys, hk, ?_, ?_⟩
    · intro key
      exact ⟨Or.inl, fun h => h.elim id fun he => he ▸ hs⟩
    · rw [insert, if_pos (hhas.mpr hs)]
  · refine ⟨keys ++ [s], ?_, ?_, ?_⟩
    · apply hk.append (List.nodup_singleton s)
      simpa using hs
    · intro key
      rw [List.mem_append, List.mem_singleton]
    · rw [insert, if_neg fun h => hs (hhas.mp h), List.map_append, List.map_singleton]

theorem foldl_insert_map_text (texts keys : List Text) (hk : keys.Nodup) :
    ∃ all : List Text, all.Nodup ∧ (∀ key, key ∈ all ↔ key ∈ keys ∨ key ∈ texts) ∧
      (texts.map Name.text).foldl insert (keys.map Name.text) = all.map .text := by
  induction texts generalizing keys with
  | nil => exact ⟨keys, hk, by simp, rfl⟩
  | cons s rest ih =>
    obtain ⟨next, hnext, hmem, hinsert⟩ := insert_map_text keys hk s
    obtain ⟨all, hall, hrest, hfold⟩ := ih next hnext
    refine ⟨all, hall, ?_, ?_⟩
    · intro key
      rw [hrest, hmem, List.mem_cons, or_assoc]
    · rw [List.map_cons, List.foldl_cons, hinsert, hfold]

/-- The set with the texts of a list holds these texts once each. -/
theorem ofTexts_eq_map (texts : List Text) :
    ∃ keys : List Text, keys.Nodup ∧ (∀ key, key ∈ keys ↔ key ∈ texts) ∧
      ofTexts texts = keys.map .text := by
  obtain ⟨keys, hn, hmem, heq⟩ := foldl_insert_map_text texts [] List.nodup_nil
  exact ⟨keys, hn, by simpa using hmem, heq⟩

theorem without_map_text (keys : List Text) (ignored : Names) :
    Names.without (keys.map Name.text) ignored =
      (keys.filter fun key => !ignored.has (.text key)).map .text := by
  rw [without, List.filter_map]
  rfl

end Names

end QueryHints
