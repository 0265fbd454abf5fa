import Mathlib.Data.List.Basic
import Mathlib.Order.Bounds.Defs
import QueryHints.Search.Quality

/-!
The windows of a text that hold the letters of a fragment in order. From a fixed start the scan reaches no
further than any such window does. Over all starts the narrowest window is kept, and of equally narrow ones the
earliest. A start that is passed over loses nothing: where another letter stands first, the window without that
letter is narrower, and once a start fails no later one can succeed.
-/

namespace QueryHints.Search

structure Window.Holds (w : Window) (q t : Text) : Prop where
  start_le_stop : w.start ≤ w.stop
  stop_le_length : w.stop ≤ t.length
  sublist : q.Sublist ((t.drop w.start).take w.width)

/-- The narrower window comes first, and of two equally narrow ones the earlier. -/
def Window.Precedes (v w : Window) : Prop :=
  v.width < w.width ∨ v.width = w.width ∧ v.start ≤ w.start

theorem Window.Precedes.refl (w : Window) : w.Precedes w :=
  Or.inr ⟨rfl, Nat.le_refl _⟩

theorem Window.Precedes.trans {u v w : Window} (huv : u.Precedes v) (hvw : v.Precedes w) : u.Precedes w := by
  unfold Precedes at huv hvw ⊢
  omega

/-- The letters of `q` stand in order among the first `m` of `t` exactly if the scan has reached them by then. -/
theorem sublist_take_iff (q t : Text) (m : Nat) :
    q.Sublist (t.take m) ↔ ∃ n, reach? q t = some n ∧ n ≤ m := by
  induction t generalizing q m with
  | nil => cases q <;> simp [reach?]
  | cons c t ih =>
    cases q with
    | nil => simp [reach?]
    | cons a q =>
      cases m with
      | zero => simp [reach?]
      | succ m =>
        rw [List.take_succ_cons, reach?]
        split_ifs with hc
        · subst hc
          rw [List.cons_sublist_cons, ih]
          simp
        · rw [List.cons_sublist_cons', ih]
          simp [hc]

section Reaching

variable (q t : Text)

theorem reach?_eq_none_iff : reach? q t = none ↔ ¬ q.Sublist t := by
  have h := sublist_take_iff q t
  constructor
  · intro hnone hsub
    obtain ⟨n, hn, -⟩ := (h t.length).mp (by rwa [List.take_length])
    rw [hnone] at hn
    cases hn
  · intro hsub
    cases hn : reach? q t with
    | none => rfl
    | some n => exact absurd (((h n).mpr ⟨n, hn, Nat.le_refl _⟩).trans (List.take_sublist n t)) hsub

variable (n : Nat) (hn : reach? q t = some n)

include hn

/-- No fewer letters from the front on will do than the scan has passed. -/
theorem sublist_take_iff_le (m : Nat) : q.Sublist (t.take m) ↔ n ≤ m := by
  rw [sublist_take_iff]
  constructor
  · rintro ⟨k, hk, hle⟩
    rw [hn, Option.some.injEq] at hk
    rwa [hk]
  · intro hle
    exact ⟨n, hn, hle⟩

theorem reach?_le_length : n ≤ t.length := by
  have hsub := (sublist_take_iff_le q t n hn n).mpr (Nat.le_refl n)
  rw [← sublist_take_iff_le q t n hn, List.take_length]
  exact hsub.trans (List.take_sublist n t)

end Reaching

section Improving

variable (best : Option Window) (w : Window)

theorem better_cases : Window.better best w = w ∨ best = some (Window.better best w) := by
  cases best with
  | none => exact Or.inl rfl
  | some b =>
    rw [Window.better]
    split_ifs
    · exact Or.inl rfl
    · exact Or.inr rfl

/-- The window that is kept precedes both. -/
theorem better_precedes (hb : ∀ b, best = some b → b.start ≤ w.start) :
    (Window.better best w).Precedes w ∧ ∀ b, best = some b → (Window.better best w).Precedes b := by
  cases best with
  | none => exact ⟨Window.Precedes.refl w, fun b h => by cases h⟩
  | some b =>
    have hstart := hb b rfl
    rw [Window.better]
    split_ifs with hwidth
    · refine ⟨Window.Precedes.refl w, ?_⟩
      rintro _ ⟨⟩
      exact Or.inl hwidth
    · refine ⟨?_, ?_⟩
      · unfold Window.Precedes
        omega
      · rintro _ ⟨⟩
        exact Window.Precedes.refl b

end Improving

/-- What is left of a choice among windows: none if there is nothing to choose from, and otherwise one that
precedes all of them. -/
def Settles (choices : Window → Prop) : Option Window → Prop
  | none => ∀ w, ¬ choices w
  | some w => choices w ∧ ∀ v, choices v → w.Precedes v

/-- Choices may be dropped if a remaining one precedes each of them. -/
theorem settles_of_covers (choices remaining : Window → Prop) (result : Option Window)
    (hsub : ∀ w, remaining w → choices w) (hcover : ∀ v, choices v → ∃ w, remaining w ∧ w.Precedes v)
    (h : Settles remaining result) : Settles choices result := by
  cases result with
  | none =>
    intro v hv
    obtain ⟨w, hw, -⟩ := hcover v hv
    exact h w hw
  | some best =>
    refine ⟨hsub best h.1, ?_⟩
    intro v hv
    obtain ⟨w, hw, hprecedes⟩ := hcover v hv
    exact (h.2 w hw).trans hprecedes

/-- The windows to choose from when the scan has come to `start`: the best one before, and those from there on. -/
def InPlay (q t : Text) (start : Nat) (best : Option Window) (w : Window) : Prop :=
  best = some w ∨ start ≤ w.start ∧ w.Holds q t

section Scanning

variable (q t : Text) (start : Nat) (best : Option Window)

theorem sublist_drop_of_holds (w : Window) (hstart : start ≤ w.start) (h : w.Holds q t) :
    q.Sublist (t.drop start) :=
  (h.sublist.trans (List.take_sublist _ _)).trans (List.drop_sublist_drop_left t hstart)

/-- Where the scan ends, no window from there on holds the letters. -/
theorem settles_end (hend : ¬ q.Sublist (t.drop start)) : Settles (InPlay q t start best) best := by
  have hbest (w : Window) (hw : InPlay q t start best w) : best = some w := by
    rcases hw with hw | ⟨hstart, hw⟩
    · exact hw
    · exact absurd (sublist_drop_of_holds q t start w hstart hw) hend
  cases best with
  | none =>
    intro w hw
    cases hbest w hw
  | some b =>
    refine ⟨Or.inl rfl, ?_⟩
    intro w hw
    cases hbest w hw
    exact Window.Precedes.refl b

variable (rest : Text) (c : Letter) (hdrop : t.drop start = c :: rest)

include hdrop

theorem drop_behind : t.drop (start + 1) = rest := by
  rw [← List.drop_drop, hdrop]
  rfl

/-- Where another letter stands than the first one of `q`, the window behind it holds the letters too. -/
theorem holds_behind (hq : q ≠ []) (hc : q.head? ≠ some c) (stop : Nat)
    (h : Window.Holds ⟨start, stop⟩ q t) : start < stop ∧ Window.Holds ⟨start + 1, stop⟩ q t := by
  obtain ⟨-, hlength, hsub⟩ := h
  cases q with
  | nil => exact absurd rfl hq
  | cons a q =>
    have hne : a ≠ c := by simpa using hc
    simp only [Window.width] at hsub
    rw [hdrop] at hsub
    have hlt : start < stop := by
      by_contra hge
      rw [Nat.sub_eq_zero_of_le (by omega), List.take_zero] at hsub
      cases hsub
    have hwidth : stop - start = (stop - (start + 1)) + 1 := by omega
    rw [hwidth, List.take_succ_cons, List.cons_sublist_cons'] at hsub
    refine ⟨hlt, hlt, hlength, ?_⟩
    simp only [Window.width]
    rw [drop_behind t start rest c hdrop]
    simpa [hne] using hsub

/-- The step past a letter that is not the first one of `q`. -/
theorem settles_skip (hq : q ≠ []) (hc : q.head? ≠ some c) (result : Option Window)
    (h : Settles (InPlay q t (start + 1) best) result) : Settles (InPlay q t start best) result := by
  refine settles_of_covers _ (InPlay q t (start + 1) best) result ?_ ?_ h
  · rintro w (hw | ⟨hstart, hw⟩)
    · exact Or.inl hw
    · exact Or.inr ⟨by omega, hw⟩
  · rintro ⟨first, stop⟩ (hv | ⟨hstart, hv⟩)
    · exact ⟨_, Or.inl hv, Window.Precedes.refl _⟩
    · dsimp only at hstart
      rcases Nat.eq_or_lt_of_le hstart with rfl | hlater
      · obtain ⟨hlt, hbehind⟩ := holds_behind q t start rest c hdrop hq hc stop hv
        refine ⟨⟨start + 1, stop⟩, Or.inr ⟨Nat.le_refl _, hbehind⟩, Or.inl ?_⟩
        simp only [Window.width]
        omega
      · exact ⟨⟨first, stop⟩, Or.inr ⟨hlater, hv⟩, Window.Precedes.refl _⟩

/-- A reach from a start is a window that holds the letters. -/
theorem holds_of_reach? (n : Nat) (hn : reach? q (c :: rest) = some n) :
    Window.Holds ⟨start, start + n⟩ q t := by
  have hlength : t.length - start = rest.length + 1 := by
    rw [← List.length_drop, hdrop, List.length_cons]
  have hle := reach?_le_length q (c :: rest) n hn
  have hsub := (sublist_take_iff_le q (c :: rest) n hn n).mpr (Nat.le_refl n)
  rw [List.length_cons] at hle
  rw [← hdrop] at hsub
  refine ⟨Nat.le_add_right _ _, ?_, ?_⟩
  · dsimp only
    omega
  · simpa [Window.width] using hsub

/-- The step past a start from which the scan succeeds. -/
theorem settles_reach (n : Nat) (hn : reach? q (c :: rest) = some n) (hb : ∀ b, best = some b → b.start ≤ start)
    (result : Option Window)
    (h : Settles (InPlay q t (start + 1) (some (Window.better best ⟨start, start + n⟩))) result) :
    Settles (InPlay q t start best) result := by
  obtain ⟨hnew, hold⟩ := better_precedes best ⟨start, start + n⟩ hb
  refine settles_of_covers _ _ result ?_ ?_ h
  · rintro w (hw | ⟨hstart, hw⟩)
    · cases hw
      rcases better_cases best ⟨start, start + n⟩ with hw | hw
      · rw [hw]
        exact Or.inr ⟨Nat.le_refl _, holds_of_reach? q t start rest c hdrop n hn⟩
      · exact Or.inl hw
    · exact Or.inr ⟨by omega, hw⟩
  · rintro ⟨first, stop⟩ (hv | ⟨hstart, hv⟩)
    · exact ⟨_, Or.inl rfl, hold _ hv⟩
    · dsimp only at hstart
      rcases Nat.eq_or_lt_of_le hstart with rfl | hlater
      · -- a window from the same start is at least as wide as what the scan reached
        have hsub := hv.sublist
        rw [hdrop, sublist_take_iff_le q (c :: rest) n hn] at hsub
        refine ⟨_, Or.inl rfl, hnew.trans ?_⟩
        simp only [Window.Precedes, Window.width] at hsub ⊢
        omega
      · exact ⟨⟨first, stop⟩, Or.inr ⟨hlater, hv⟩, Window.Precedes.refl _⟩

end Scanning

/-- The scan settles the choice: by each step what is left of it stays the same. -/
theorem settles_tightestFrom (q t : Text) (hq : q ≠ []) (rest : Text) (start : Nat) (best : Option Window)
    (hdrop : t.drop start = rest) (hb : ∀ b, best = some b → b.start ≤ start) :
    Settles (InPlay q t start best) (tightestFrom q start best rest) := by
  induction rest generalizing start best with
  | nil =>
    rw [tightestFrom]
    apply settles_end
    rw [hdrop, List.sublist_nil]
    exact hq
  | cons c rest ih =>
    have hbehind := drop_behind t start rest c hdrop
    rw [tightestFrom]
    split_ifs with hc
    · cases hn : reach? q (c :: rest) with
      | none =>
        apply settles_end
        rw [hdrop]
        exact (reach?_eq_none_iff q (c :: rest)).mp hn
      | some n =>
        apply settles_reach q t start best rest c hdrop n hn hb
        apply ih (start + 1) _ hbehind
        intro b hbest
        cases hbest
        rcases better_cases best ⟨start, start + n⟩ with h | h
        · rw [h]
          exact Nat.le_succ start
        · exact Nat.le_succ_of_le (hb _ h)
    · apply settles_skip q t start best rest c hdrop hq hc
      exact ih (start + 1) best hbehind fun b h => Nat.le_succ_of_le (hb b h)

/-- The tightest window is the one that precedes all that hold the letters. -/
theorem settles_tightest? (q t : Text) (hq : q ≠ []) :
    Settles (fun w => w.Holds q t) (tightest? q t) := by
  have h := settles_tightestFrom q t hq t 0 none rfl (fun b hb => by cases hb)
  have hall : InPlay q t 0 none = fun w => w.Holds q t := by
    funext w
    simp [InPlay]
  rwa [hall] at h

/-- No window is found if and only if the letters do not stand in order. -/
theorem tightest?_eq_none_iff (q t : Text) (hq : q ≠ []) : tightest? q t = none ↔ ¬ q.Sublist t := by
  have h := settles_tightest? q t hq
  constructor
  · intro hnone hsub
    rw [hnone] at h
    apply h ⟨0, t.length⟩
    exact ⟨Nat.zero_le _, Nat.le_refl _, by simpa [Window.width] using hsub⟩
  · intro hsub
    cases hw : tightest? q t with
    | none => rfl
    | some w =>
      rw [hw] at h
      exact absurd (sublist_drop_of_holds q t 0 w (Nat.zero_le _) h.1) hsub

def widths (q t : Text) : Set Nat :=
  {n | ∃ stretch : Text, stretch <:+: t ∧ q.Sublist stretch ∧ stretch.length = n}

/-- The width of the tightest window is the least one. -/
theorem isLeast_width (q t : Text) (hq : q ≠ []) (w : Window) (hw : tightest? q t = some w) :
    IsLeast (widths q t) w.width := by
  have h := settles_tightest? q t hq
  rw [hw] at h
  obtain ⟨hholds, hleast⟩ := h
  constructor
  · refine ⟨(t.drop w.start).take w.width, ?_, hholds.sublist, ?_⟩
    · exact (List.take_prefix _ _).isInfix.trans (List.drop_suffix _ _).isInfix
    · rw [List.length_take, List.length_drop]
      have hle := hholds.start_le_stop
      have hlength := hholds.stop_le_length
      simp only [Window.width]
      omega
  · rintro n ⟨stretch, ⟨front, back, rfl⟩, hsub, rfl⟩
    have hstretch : Window.Holds ⟨front.length, front.length + stretch.length⟩ q (front ++ stretch ++ back) := by
      refine ⟨Nat.le_add_right _ _, by simp, ?_⟩
      simpa [Window.width] using hsub
    have hprecedes := hleast _ hstretch
    simp only [Window.Precedes, Window.width, Nat.add_sub_cancel_left] at hprecedes ⊢
    omega

structure Window.Tightest (w : Window) (q t : Text) : Prop where
  holds : w.Holds q t
  narrowest : ∀ v : Window, v.Holds q t → w.width ≤ v.width
  earliest : ∀ v : Window, v.Holds q t → v.width = w.width → w.start ≤ v.start

theorem Window.tightest_of_precedes (w : Window) (q t : Text) (hw : w.Holds q t)
    (hfirst : ∀ v : Window, v.Holds q t → w.Precedes v) : w.Tightest q t := by
  refine ⟨hw, ?_, ?_⟩
  · intro v hv
    have hprecedes := hfirst v hv
    unfold Precedes at hprecedes
    omega
  · intro v hv hwidth
    have hprecedes := hfirst v hv
    unfold Precedes at hprecedes
    omega

/-- There is only one tightest window: of two, each is as narrow and as early as the other. -/
theorem Window.Tightest.unique {v w : Window} {q t : Text} (hv : v.Tightest q t) (hw : w.Tightest q t) :
    v = w := by
  have hwidth : v.width = w.width :=
    Nat.le_antisymm (hv.narrowest w hw.holds) (hw.narrowest v hv.holds)
  have hstart : v.start = w.start :=
    Nat.le_antisymm (hv.earliest w hw.holds hwidth.symm) (hw.earliest v hv.holds hwidth)
  have hvstop := hv.holds.start_le_stop
  have hwstop := hw.holds.start_le_stop
  have hstop : v.stop = w.stop := by
    unfold Window.width at hwidth
    omega
  cases v
  cases w
  dsimp only at hstart hstop
  rw [hstart, hstop]

/-- The scan over the starts, with its early end, finds what a search of all windows would: nothing exactly if
the letters of `q` do not stand in `t` in order, and otherwise the first of the narrowest windows. -/
theorem scan_finds_tightest (q t : Text) (hq : q ≠ []) :
    (tightest? q t = none ↔ ¬ q.Sublist t) ∧
      ∀ w, tightest? q t = some w ↔ w.Tightest q t := by
  refine ⟨tightest?_eq_none_iff q t hq, ?_⟩
  have hsettled := settles_tightest? q t hq
  intro w
  cases hfound : tightest? q t with
  | none =>
    rw [hfound] at hsettled
    constructor
    · intro h
      cases h
    · intro hw
      exact absurd hw.holds (hsettled w)
  | some u =>
    rw [hfound] at hsettled
    have hu : u.Tightest q t := u.tightest_of_precedes q t hsettled.1 hsettled.2
    constructor
    · rintro ⟨⟩
      exact hu
    · intro hw
      rw [hu.unique hw]

/-- Of two windows of three letters the earlier one is found, although a start before it is passed over. -/
theorem scan_finds_tightest_of_two :
    Text.of "ab" ≠ [] ∧ Window.Tightest ⟨1, 4⟩ "ab" "xa-bya.b" := by
  have hq : Text.of "ab" ≠ [] := by decide
  exact ⟨hq, ((scan_finds_tightest "ab" "xa-bya.b" hq).2 ⟨1, 4⟩).mp (by decide)⟩

end QueryHints.Search
