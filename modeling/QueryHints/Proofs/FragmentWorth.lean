import Mathlib.Order.Bounds.Basic
import QueryHints.Proofs.TightestWindow
import QueryHints.Text.Fold

namespace QueryHints.Search

def occurrences (q t : Text) : Set Nat :=
  {i | q <+: t.drop i}

section Occurring

variable (q t : Text)

theorem infix_iff_occurs : q <:+: t ↔ ∃ i, i ∈ occurrences q t := by
  rw [List.infix_iff_prefix_suffix]
  constructor
  · rintro ⟨s, hprefix, hsuffix⟩
    rw [List.suffix_iff_eq_drop.mp hsuffix] at hprefix
    exact ⟨_, hprefix⟩
  · rintro ⟨i, hi⟩
    exact ⟨t.drop i, hi, List.drop_suffix i t⟩

theorem isLeast_of_occurrence? (i : Nat) (h : occurrence? q t = some i) : IsLeast (occurrences q t) i := by
  induction t generalizing i with
  | nil =>
    rw [occurrence?] at h
    split_ifs at h with hq
    cases h
    rw [List.isEmpty_iff.mp hq]
    exact ⟨List.nil_prefix, fun j _ => Nat.zero_le j⟩
  | cons c t ih =>
    rw [occurrence?] at h
    split_ifs at h with hq
    · cases h
      exact ⟨List.isPrefixOf_iff_prefix.mp hq, fun j _ => Nat.zero_le j⟩
    · obtain ⟨k, hk, rfl⟩ := Option.map_eq_some_iff.mp h
      obtain ⟨hoccurs, hleast⟩ := ih k hk
      refine ⟨hoccurs, ?_⟩
      intro j hj
      cases j with
      | zero => exact absurd (List.isPrefixOf_iff_prefix.mpr hj) hq
      | succ j => exact Nat.succ_le_succ (hleast hj)

theorem occurrence?_eq_none_iff : occurrence? q t = none ↔ ¬ q <:+: t := by
  induction t with
  | nil =>
    rw [occurrence?, List.infix_nil]
    split_ifs with hq
    · simpa using hq
    · simpa using hq
  | cons c t ih =>
    rw [occurrence?, List.infix_cons_iff, ← List.isPrefixOf_iff_prefix]
    split_ifs with hq
    · simp [hq]
    · simp [hq, ih]

theorem occurrence?_eq_some_iff (i : Nat) : occurrence? q t = some i ↔ IsLeast (occurrences q t) i := by
  constructor
  · exact isLeast_of_occurrence? q t i
  · intro hleast
    cases h : occurrence? q t with
    | none =>
      have hinfix := (infix_iff_occurs q t).mpr ⟨i, hleast.1⟩
      exact absurd hinfix ((occurrence?_eq_none_iff q t).mp h)
    | some j => rw [(isLeast_of_occurrence? q t j h).unique hleast]

end Occurring

section Points

variable (q t : Text)

theorem sublist_of_width (width : Nat) (h : width ∈ widths q t) : q.Sublist t := by
  obtain ⟨stretch, hinfix, hsub, -⟩ := h
  exact hsub.trans hinfix.sublist

/-- Nothing is everywhere, so what does not occur has a letter. -/
theorem ne_nil_of_apart (h : ¬ q <:+: t) : q ≠ [] := by
  rintro rfl
  exact h List.nil_infix

/-- Two points a letter, and one more if the first occurrence starts a word. -/
theorem quality_of_first (first : Nat) (h : IsLeast (occurrences q t) first) :
    quality q t = 2 * q.length + if startsWord t first then 1 else 0 := by
  rw [quality, (occurrence?_eq_some_iff q t first).mpr h]
  split_ifs with hword <;> simp [hword]

/-- Scattered letters lose a point for every letter that the narrowest window has besides them. -/
theorem quality_of_scattered (h : ¬ q <:+: t) (width : Nat) (hw : IsLeast (widths q t) width) :
    quality q t = 2 * q.length - (width - q.length) := by
  have hq := ne_nil_of_apart q t h
  rw [quality, (occurrence?_eq_none_iff q t).mpr h]
  cases htight : tightest? q t with
  | none => exact absurd (sublist_of_width q t width hw.1) ((tightest?_eq_none_iff q t hq).mp htight)
  | some w =>
    rw [hw.unique (isLeast_width q t hq w htight)]
    simp

/-- Letters that the folded candidate does not hold in order count as if they stood in one piece. -/
theorem quality_of_unseen (h : ¬ q.Sublist t) : quality q t = 2 * q.length := by
  have hapart : ¬ q <:+: t := fun hin => h hin.sublist
  have hq := ne_nil_of_apart q t hapart
  rw [quality, (occurrence?_eq_none_iff q t).mpr hapart, (tightest?_eq_none_iff q t hq).mpr h]
  simp

theorem exists_first (h : q <:+: t) : ∃ first, IsLeast (occurrences q t) first := by
  cases hfirst : occurrence? q t with
  | none => exact absurd h ((occurrence?_eq_none_iff q t).mp hfirst)
  | some first => exact ⟨first, isLeast_of_occurrence? q t first hfirst⟩

theorem exists_least_width (hq : q ≠ []) (h : q.Sublist t) : ∃ width, IsLeast (widths q t) width := by
  cases htight : tightest? q t with
  | none => exact absurd h ((tightest?_eq_none_iff q t hq).mp htight)
  | some w => exact ⟨w.width, isLeast_width q t hq w htight⟩

end Points

section Bounds

variable (q t : Text)

theorem quality_of_occurs (h : q <:+: t) :
    2 * (q.length : Int) ≤ quality q t ∧ quality q t ≤ 2 * q.length + 1 := by
  obtain ⟨first, hfirst⟩ := exists_first q t h
  rw [quality_of_first q t first hfirst]
  split_ifs <;> omega

/-- Scattered letters skip one at least. -/
theorem quality_lt_of_scattered (h : ¬ q <:+: t) (hsub : q.Sublist t) : quality q t < 2 * q.length := by
  have hq := ne_nil_of_apart q t h
  obtain ⟨width, hwidth⟩ := exists_least_width q t hq hsub
  obtain ⟨stretch, hinfix, hstretch, hlength⟩ := hwidth.1
  have hwider : q.length < width := by
    rw [← hlength]
    apply Nat.lt_of_le_of_ne hstretch.length_le
    intro heq
    rw [← hstretch.eq_of_length heq] at hinfix
    exact h hinfix
  rw [quality_of_scattered q t h width hwidth]
  omega

theorem quality_le_of_apart (h : ¬ q <:+: t) : quality q t ≤ 2 * q.length := by
  by_cases hsub : q.Sublist t
  · exact (quality_lt_of_scattered q t h hsub).le
  · exact (quality_of_unseen q t hsub).le

theorem quality_le : quality q t ≤ 2 * q.length + 1 := by
  by_cases hin : q <:+: t
  · exact (quality_of_occurs q t hin).2
  · have hle := quality_le_of_apart q t hin
    omega

/-- A text starts with itself and so has all the points there are. -/
theorem quality_self : quality q q = 2 * q.length + 1 := by
  have hfirst : IsLeast (occurrences q q) 0 := ⟨List.prefix_refl q, fun j _ => Nat.zero_le j⟩
  rw [quality_of_first q q 0 hfirst]
  rfl

end Bounds

/-- The points of `q` in `t` by all occurrences and all windows: two for each letter, one more if some occurrence
starts a word, and for letters that are only scattered one less for each letter skipped in the narrowest window. -/
inductive Worth (q t : Text) : Int → Prop
  | word (i : Nat) (occurs : i ∈ occurrences q t) (starts : startsWord t i = true) : Worth q t (2 * q.length + 1)
  | inside (occurs : q <:+: t) (starts : ∀ i ∈ occurrences q t, startsWord t i = false) : Worth q t (2 * q.length)
  | scattered (apart : ¬ q <:+: t) (width : Nat) (least : IsLeast (widths q t) width) :
    Worth q t (2 * q.length - (width - q.length))
  | unseen (apart : ¬ q.Sublist t) : Worth q t (2 * q.length)

/-- The first occurrence stands inside a word, and a later one starts a word. -/
structure LateWord (q t : Text) (first later : Nat) : Prop where
  leftmost : IsLeast (occurrences q t) first
  inside : startsWord t first = false
  occurs : later ∈ occurrences q t
  starts : startsWord t later = true

section Comparing

variable (q t : Text)

/-- A fragment has one worth in a candidate. -/
theorem worth_unique (a b : Int) (ha : Worth q t a) (hb : Worth q t b) : a = b := by
  have hocc (i : Nat) (hi : i ∈ occurrences q t) : q <:+: t := (infix_iff_occurs q t).mpr ⟨i, hi⟩
  cases ha with
  | word i hi hword =>
    cases hb with
    | word => rfl
    | inside _ hnone => simp [hnone i hi] at hword
    | scattered hapart => exact absurd (hocc i hi) hapart
    | unseen hapart => exact absurd (hocc i hi).sublist hapart
  | inside hin hnone =>
    cases hb with
    | word i hi hword => simp [hnone i hi] at hword
    | inside => rfl
    | scattered hapart => exact absurd hin hapart
    | unseen hapart => exact absurd hin.sublist hapart
  | scattered hapart width hwidth =>
    cases hb with
    | word i hi => exact absurd (hocc i hi) hapart
    | inside hin => exact absurd hin hapart
    | scattered _ width' hwidth' => rw [hwidth.unique hwidth']
    | unseen hunseen => exact absurd (sublist_of_width q t width hwidth.1) hunseen
  | unseen hunseen =>
    cases hb with
    | word i hi => exact absurd (hocc i hi).sublist hunseen
    | inside hin => exact absurd hin.sublist hunseen
    | scattered _ width hwidth => exact absurd (sublist_of_width q t width hwidth.1) hunseen
    | unseen => rfl

/-- Where only a later occurrence starts a word, the points are one short of the worth. -/
theorem worth_of_late (first later : Nat) (h : LateWord q t first later) : Worth q t (quality q t + 1) := by
  rw [quality_of_first q t first h.leftmost, h.inside]
  simpa using Worth.word later h.occurs h.starts

/-- Everywhere else the points are the worth. -/
theorem worth_of_not_late (h : ∀ first later, ¬ LateWord q t first later) :
    Worth q t (quality q t) := by
  by_cases hin : q <:+: t
  · obtain ⟨first, hfirst⟩ := exists_first q t hin
    rw [quality_of_first q t first hfirst]
    cases hword : startsWord t first with
    | true => exact Worth.word first hfirst.1 hword
    | false =>
      have hnone : ∀ i ∈ occurrences q t, startsWord t i = false := by
        intro i hi
        by_contra hstarts
        exact h first i ⟨hfirst, hword, hi, by simpa using hstarts⟩
      simpa using Worth.inside hin hnone
  · by_cases hsub : q.Sublist t
    · obtain ⟨width, hwidth⟩ := exists_least_width q t (ne_nil_of_apart q t hin) hsub
      rw [quality_of_scattered q t hin width hwidth]
      exact Worth.scattered hin width hwidth
    · rw [quality_of_unseen q t hsub]
      exact Worth.unseen hsub

end Comparing

/-- The points that are computed are what the fragment is worth, or one short exactly if its first occurrence
stands inside a word and a later one starts a word. -/
theorem quality_worth_or_short (q t : Text) (points : Int) :
    ((∀ first later, ¬ LateWord q t first later) → (Worth q t points ↔ points = quality q t)) ∧
      ∀ first later, LateWord q t first later → (Worth q t points ↔ points = quality q t + 1) := by
  have hvalue (value : Int) (hworth : Worth q t value) : Worth q t points ↔ points = value := by
    constructor
    · intro h
      exact worth_unique q t points value h hworth
    · rintro rfl
      exact hworth
  constructor
  · intro hnone
    exact hvalue _ (worth_of_not_late q t hnone)
  · intro first later hlate
    exact hvalue _ (worth_of_late q t first later hlate)

theorem lateWord_username : LateWord "name" "username/name" 4 9 where
  leftmost := isLeast_of_occurrence? _ _ 4 (by decide)
  inside := by decide
  occurs := List.isPrefixOf_iff_prefix.mp (by decide)
  starts := by decide

/-- A name that is repeated in its own namespace: nine points are right, and eight are given. -/
theorem quality_worth_or_short_repeated :
    LateWord "name" "username/name" 4 9 ∧ quality "name" "username/name" = 8 ∧
      ∀ points, Worth "name" "username/name" points ↔ points = 9 := by
  have hquality : quality "name" "username/name" = 8 := by decide
  refine ⟨lateWord_username, hquality, ?_⟩
  intro points
  have hworth := (quality_worth_or_short "name" "username/name" points).2 4 9 lateWord_username
  rwa [hquality] at hworth

/-- The points of a folded fragment in a folded candidate are not always what it is worth. -/
theorem later_word_unpaid :
    Text.fold "name" = Text.of "name" ∧ Text.fold "username/name" = Text.of "username/name" ∧
      9 ∈ occurrences "name" "username/name" ∧ startsWord "username/name" 9 = true ∧
      quality "name" "username/name" = 2 * (Text.of "name").length ∧
      ¬ Worth "name" "username/name" (quality "name" "username/name") := by
  refine ⟨by decide, by decide, lateWord_username.occurs, lateWord_username.starts, by decide, ?_⟩
  intro hworth
  have hlate := worth_of_late _ _ _ _ lateWord_username
  have heq := worth_unique _ _ _ _ hworth hlate
  omega

end QueryHints.Search
