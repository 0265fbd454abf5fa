import Mathlib.Logic.Function.Defs
import QueryHints.Search.Pattern

namespace QueryHints.Search

def metacharacters : Text :=
  ['.', '^', '$', '*', '+', '?', '\x7b', '\x7d', '[', ']', '\\', '|', '(', ')']

def Pattern.read? : Text → Option Pattern
  | [] => some []
  | [c] => if metacharacters.contains c then none else some [.letter c]
  | c :: d :: rest =>
    if c = '\\' then (read? rest).map (.letter d :: ·)
    else if c = '.' ∧ d = '*' then (read? rest).map (.anything :: ·)
    else if metacharacters.contains c then none
    else (read? (d :: rest)).map (.letter c :: ·)

section Reading

theorem read?_escaped (c : Letter) (rest : Text) :
    Pattern.read? (Letter.ofChar '\\' :: c :: rest) = (Pattern.read? rest).map (.letter c :: ·) := by
  rw [Pattern.read?, if_pos rfl]

theorem read?_anything (rest : Text) :
    Pattern.read? (Letter.ofChar '.' :: Letter.ofChar '*' :: rest) = (Pattern.read? rest).map (.anything :: ·) := by
  rw [Pattern.read?, if_neg (by decide), if_pos ⟨rfl, rfl⟩]

theorem read?_plain (c : Letter) (rest : Text) (hc : c ∉ metacharacters) :
    Pattern.read? (c :: rest) = (Pattern.read? rest).map (.letter c :: ·) := by
  have hplain : ¬ metacharacters.contains c = true := mt List.contains_iff_mem.mp hc
  cases rest with
  | nil => simp [Pattern.read?, hc]
  | cons d rest =>
    have hslash : c ≠ Letter.ofChar '\\' := by
      rintro rfl
      exact hc (by decide)
    have hdot : ¬ (c = Letter.ofChar '.' ∧ d = Letter.ofChar '*') := by
      rintro ⟨rfl, -⟩
      exact hc (by decide)
    rw [Pattern.read?, if_neg hslash, if_neg hdot, if_neg hplain]

/-- Every letter that has a meaning of its own is written with a backslash. -/
theorem metacharacters_subset_specials : metacharacters ⊆ specials := by
  decide

/-- The text of an item is read as that item, whatever comes behind it. -/
theorem read?_item_append (item : Item) (rest : Text) :
    Pattern.read? (item.text ++ rest) = (Pattern.read? rest).map (item :: ·) := by
  cases item with
  | anything => exact read?_anything rest
  | letter c =>
    rw [Item.text]
    split
    · exact read?_escaped c rest
    · next hc =>
      rw [List.contains_iff_mem] at hc
      exact read?_plain c rest (mt (metacharacters_subset_specials ·) hc)

/-- The text of a pattern is read as that pattern. -/
theorem read?_text (pattern : Pattern) : Pattern.read? pattern.text = some pattern := by
  induction pattern with
  | nil => rfl
  | cons item items ih =>
    have hsplit : Pattern.text (item :: items) = item.text ++ Pattern.text items := rfl
    rw [hsplit, read?_item_append, ih]
    rfl

end Reading

/-- Only a NUL character keeps a fragment from having a pattern. -/
theorem ofFragment_eq_ok_iff (fragment : Text) (pattern : Pattern) :
    Pattern.ofFragment fragment = .ok pattern ↔ Letter.ofCode 0 ∉ fragment ∧ pattern = Pattern.ofLetters fragment := by
  rw [Pattern.ofFragment]
  by_cases hn : Letter.ofCode 0 ∈ fragment
  · simp [hn]
  · simp [hn, eq_comm]

/-- Different fragments have different patterns. -/
theorem ofLetters_injective : Function.Injective Pattern.ofLetters := by
  intro letters others h
  induction letters generalizing others with
  | nil =>
    cases others with
    | nil => rfl
    | cons c others => cases h
  | cons c letters ih =>
    cases others with
    | nil => cases h
    | cons d others =>
      have hitems : Item.letter c :: .anything :: Pattern.ofLetters letters =
          .letter d :: .anything :: Pattern.ofLetters others := h
      obtain ⟨hfirst, hrest⟩ := List.cons.inj hitems
      rw [Item.letter.inj hfirst, ih (List.cons.inj hrest).2]

/-- The text of a fragment's pattern is read to its end, as the letters of the fragment with anything behind each of
them. So no letter of a fragment has another meaning, and different fragments have different texts. -/
theorem fragment_letters_are_literal (fragment : Text) (hn : Letter.ofCode 0 ∉ fragment) :
    ∃ pattern, Pattern.ofFragment fragment = .ok pattern ∧
      Pattern.read? pattern.text = some (fragment.flatMap fun c => [.letter c, .anything]) ∧
      ∀ other pattern', Pattern.ofFragment other = .ok pattern' → pattern'.text = pattern.text →
        other = fragment := by
  refine ⟨Pattern.ofLetters fragment, (ofFragment_eq_ok_iff _ _).mpr ⟨hn, rfl⟩, read?_text _, ?_⟩
  intro other pattern' hother htext
  obtain ⟨-, rfl⟩ := (ofFragment_eq_ok_iff _ _).mp hother
  apply ofLetters_injective
  have hread := read?_text (Pattern.ofLetters other)
  rw [htext, read?_text] at hread
  exact (Option.some.inj hread).symm

/-- A fragment of a backslash, a dot, a star and a letter. -/
theorem fragment_letters_are_literal_marks :
    Letter.ofCode 0 ∉ Text.of "\\.*d" ∧
    ∃ pattern, Pattern.ofFragment "\\.*d" = .ok pattern ∧ pattern.text = Text.of "\\\\.*\\..*\\*.*d.*" ∧
      Pattern.read? pattern.text = some [.letter '\\', .anything, .letter '.', .anything, .letter '*', .anything,
        .letter 'd', .anything] ∧
      ∀ other pattern', Pattern.ofFragment other = .ok pattern' → pattern'.text = pattern.text →
        other = Text.of "\\.*d" := by
  have hn : Letter.ofCode 0 ∉ Text.of "\\.*d" := by decide
  obtain ⟨pattern, hpattern, hread, hother⟩ := fragment_letters_are_literal "\\.*d" hn
  obtain ⟨-, rfl⟩ := (ofFragment_eq_ok_iff _ _).mp hpattern
  exact ⟨hn, _, hpattern, by decide, hread, hother⟩

end QueryHints.Search
