import Mathlib.Data.List.Forall2
import Mathlib.Data.List.GetD
import Mathlib.Data.List.Range
import Mathlib.Data.List.TakeWhile
import Mathlib.Order.Bounds.Defs
import Mathlib.Tactic.SplitIfs
import QueryHints.Search.Pattern

/-!
What the pattern of a fragment finds. The letters of the fragment are placed in a candidate, one behind the
other, with no line feed inside a gap. A pattern is found exactly where its letters can be placed. The match
starts at the least place that the first letter can have. Where it stops does not depend on how the letters are
placed: only letters of the fragment pass a line feed, so it stops before the first one that none of them passes.
-/

namespace QueryHints

open Letter (lineFeed)

namespace Text

theorem caseClasses_beyond_lineFeed :
    caseClasses.all (fun run => decide (10 < (run.first : Int) + run.shift)) = true := by
  decide

/-- No letter but the line feed is like a line feed. -/
theorem eq_lineFeed_of_alike (a : Letter) (h : alike a lineFeed = true) : a = lineFeed := by
  have hfeed : caseClass lineFeed = 10 := by decide
  have hclass : caseClass a = 10 := by
    rw [alike, hfeed] at h
    exact beq_iff_eq.mp h
  apply Letter.ext_code
  change a.code = 10
  rw [caseClass, Run.target] at hclass
  split at hclass
  · next run hrun =>
    have hbeyond := List.all_eq_true.mp caseClasses_beyond_lineFeed run (List.mem_of_find?_eq_some hrun)
    rw [decide_eq_true_eq] at hbeyond
    split at hclass
    · next hmoves =>
      simp only [Run.moves, Bool.and_eq_true, decide_eq_true_eq] at hmoves
      rw [Int.ofNat_eq_natCast] at hclass
      omega
    · exact hclass
  · exact hclass

/-- Only a line feed is like a line feed. -/
theorem eq_lineFeed_iff_of_alike (a b : Letter) (h : alike a b = true) : a = lineFeed ↔ b = lineFeed := by
  constructor
  · rintro rfl
    rw [alike_comm] at h
    exact eq_lineFeed_of_alike b h
  · rintro rfl
    exact eq_lineFeed_of_alike a h

end Text

namespace Search

/-- Places for the letters of a fragment in a candidate: they ascend, like letters stand there, and no line feed
stands between a place and the next. -/
structure Placement (fragment candidate : Text) (places : List Nat) : Prop where
  ascending : places.Pairwise (· < ·)
  alike : List.Forall₂ (fun letter place => ∃ c, candidate[place]? = some c ∧ Text.alike letter c = true)
    fragment places
  unbroken : places.IsChain fun place next => ∀ i, place < i → i < next → candidate[i]? ≠ some lineFeed

def lineFeedsFrom (text : Text) (start : Nat) : List Nat :=
  (List.range' start (text.length - start)).filter fun i => text[i]? = some lineFeed

theorem placement_singleton (letter c : Letter) (candidate : Text) (place : Nat)
    (hc : candidate[place]? = some c) (ha : Text.alike letter c = true) :
    Placement [letter] candidate [place] where
  ascending := List.pairwise_singleton _ _
  alike := .cons ⟨c, hc, ha⟩ .nil
  unbroken := List.isChain_singleton _

/-- The first letter has a place before all others, with no line feed between it and the next. -/
theorem placement_cons_iff (letter : Letter) (fragment candidate : Text) (place next : Nat) (places : List Nat) :
    Placement (letter :: fragment) candidate (place :: next :: places) ↔
      (∃ c, candidate[place]? = some c ∧ Text.alike letter c = true) ∧ place < next ∧
        (∀ i, place < i → i < next → candidate[i]? ≠ some lineFeed) ∧
        Placement fragment candidate (next :: places) := by
  constructor
  · intro h
    obtain ⟨hfirst, hlater⟩ := List.pairwise_cons.mp h.ascending
    obtain ⟨hletter, hletters⟩ := List.forall₂_cons.mp h.alike
    obtain ⟨hgap, hgaps⟩ := List.isChain_cons_cons.mp h.unbroken
    exact ⟨hletter, hfirst next List.mem_cons_self, hgap, hlater, hletters, hgaps⟩
  · rintro ⟨hletter, hlt, hgap, h⟩
    refine ⟨List.pairwise_cons.mpr ⟨?_, h.ascending⟩, .cons hletter h.alike,
      List.isChain_cons_cons.mpr ⟨hgap, h.unbroken⟩⟩
    intro p hp
    rcases List.mem_cons.mp hp with rfl | hp
    · exact hlt
    · exact hlt.trans ((List.pairwise_cons.mp h.ascending).1 p hp)

section Front

theorem ofLetters_cons (letter : Letter) (letters : Text) :
    Pattern.ofLetters (letter :: letters) = .letter letter :: .anything :: Pattern.ofLetters letters := rfl

/-- A stretch of anything is passed up to some place in the line. -/
theorem gap_of_remainder? (items : Pattern) (cs rest : Text)
    (h : remainder? (.anything :: items) cs = some rest) :
    ∃ gap later, cs = gap ++ later ∧ lineFeed ∉ gap ∧ remainder? items later = some rest := by
  induction cs with
  | nil =>
    rw [remainder?] at h
    exact ⟨[], [], rfl, List.not_mem_nil, h⟩
  | cons c cs ih =>
    rw [remainder?] at h
    split_ifs at h with hc
    · exact ⟨[], c :: cs, rfl, List.not_mem_nil, h⟩
    · rcases Option.or_eq_some_iff.mp h with hlater | ⟨-, hhere⟩
      · obtain ⟨gap, later, rfl, hgap, hrest⟩ := ih hlater
        refine ⟨c :: gap, later, rfl, ?_, hrest⟩
        rw [List.mem_cons, not_or]
        exact ⟨Ne.symm hc, hgap⟩
      · exact ⟨[], c :: cs, rfl, List.not_mem_nil, hhere⟩

theorem isSome_remainder?_of_gap (items : Pattern) (gap later : Text) (hg : lineFeed ∉ gap)
    (h : (remainder? items later).isSome = true) :
    (remainder? (.anything :: items) (gap ++ later)).isSome = true := by
  induction gap with
  | nil =>
    cases later with
    | nil => simpa only [List.nil_append, remainder?] using h
    | cons c cs =>
      rw [List.nil_append, remainder?]
      split_ifs
      · exact h
      · rw [Option.isSome_or, h, Bool.or_true]
  | cons c gap ih =>
    rw [List.mem_cons, not_or] at hg
    rw [List.cons_append, remainder?, if_neg (Ne.symm hg.1), Option.isSome_or, ih hg.2, Bool.true_or]

/-- Behind the last letter the rest of the line is passed. -/
theorem remainder?_rest_of_line (cs : Text) :
    remainder? [.anything] cs = some (cs.dropWhile fun c => c ≠ lineFeed) := by
  induction cs with
  | nil => simp [remainder?]
  | cons c cs ih =>
    rw [remainder?, ih]
    by_cases hc : c = lineFeed
    · simp [hc, remainder?]
    · simp [hc]

/-- At the front of a text, a match passes as many line feeds as the fragment has, and stops before another one
or at the end. -/
theorem match_of_remainder? (letters cs rest : Text) (hl : letters ≠ [])
    (h : remainder? (Pattern.ofLetters letters) cs = some rest) :
    ∃ matched, cs = matched ++ rest ∧ matched.count lineFeed = letters.count lineFeed ∧
      (rest = [] ∨ rest.head? = some lineFeed) := by
  induction letters generalizing cs with
  | nil => exact absurd rfl hl
  | cons letter letters ih =>
    cases cs with
    | nil =>
      rw [ofLetters_cons, remainder?] at h
      cases h
    | cons c cs =>
      rw [ofLetters_cons, remainder?] at h
      split_ifs at h with ha
      have hcount (passed : Text) (hp : passed.count lineFeed = letters.count lineFeed) :
          (c :: passed).count lineFeed = (letter :: letters).count lineFeed := by
        have hletter := Text.eq_lineFeed_iff_of_alike letter c ha
        simp only [List.count_cons, hp, beq_iff_eq, hletter]
      by_cases hlast : letters = []
      · subst hlast
        change remainder? [.anything] cs = some rest at h
        rw [remainder?_rest_of_line, Option.some.injEq] at h
        subst h
        refine ⟨c :: cs.takeWhile fun c => c ≠ lineFeed, ?_, ?_, ?_⟩
        · rw [List.cons_append, List.takeWhile_append_dropWhile]
        · apply hcount
          apply List.count_eq_zero_of_not_mem
          intro hmem
          simpa using List.mem_takeWhile_imp hmem
        · have hstop := List.head?_dropWhile_not (fun c => decide (c ≠ lineFeed)) cs
          cases hrest : cs.dropWhile fun c => c ≠ lineFeed with
          | nil => exact Or.inl rfl
          | cons d later =>
            rw [hrest] at hstop
            right
            simpa using hstop
      · obtain ⟨gap, later, rfl, hgap, hlater⟩ := gap_of_remainder? _ cs rest h
        obtain ⟨matched, rfl, hmatched, hstop⟩ := ih later hlast hlater
        refine ⟨c :: (gap ++ matched), by simp, ?_, hstop⟩
        apply hcount
        rw [List.count_append, List.count_eq_zero_of_not_mem hgap, hmatched, Nat.zero_add]

end Front

section Leftmost

theorem getElem?_suffixes (cs : Text) (i : Nat) :
    (suffixes cs)[i]? = if i ≤ cs.length then some (cs.drop i) else none := by
  induction cs generalizing i with
  | nil => cases i <;> simp [suffixes]
  | cons c cs ih => cases i <;> simp [suffixes, ih]

/-- The first answer of a row is the one with the fewest letters before it. -/
theorem firstAnswer?_eq_some_iff (row : Row) (start : Nat) (rest : Text) :
    firstAnswer? row = some (start, rest) ↔
      row[start]? = some (some rest) ∧ ∀ i < start, row[i]? = some none := by
  induction row generalizing start with
  | nil => simp [firstAnswer?]
  | cons answer row ih =>
    cases answer with
    | some first =>
      cases start with
      | zero => simp [firstAnswer?]
      | succ start =>
        constructor
        · intro h
          cases h
        · rintro ⟨-, hbefore⟩
          cases hbefore 0 (Nat.succ_pos start)
    | none =>
      cases start with
      | zero => simp [firstAnswer?]
      | succ start =>
        have hshift : firstAnswer? (none :: row) = some (start + 1, rest) ↔
            firstAnswer? row = some (start, rest) := by
          simp [firstAnswer?]
        rw [hshift, ih, Nat.forall_lt_succ_left]
        simp

/-- The span of a pattern starts at the first suffix that it matches. -/
theorem span?_eq_some_iff (pattern : Pattern) (candidate : Text) (start stop : Nat) :
    pattern.span? candidate = some (start, stop) ↔
      ∃ rest, remainder? pattern (candidate.drop start) = some rest ∧ start ≤ candidate.length ∧
        stop = candidate.length - rest.length ∧
        ∀ i < start, remainder? pattern (candidate.drop i) = none := by
  have hrow (i : Nat) (answer : Option Text) :
      ((suffixes candidate).map (remainder? pattern))[i]? = some answer ↔
        i ≤ candidate.length ∧ remainder? pattern (candidate.drop i) = answer := by
    rw [List.getElem?_map, getElem?_suffixes]
    by_cases hi : i ≤ candidate.length <;> simp [hi]
  rw [Pattern.span?, table_eq_map_suffixes, Option.map_eq_some_iff]
  constructor
  · rintro ⟨⟨first, rest⟩, hfirst, he⟩
    cases he
    obtain ⟨hanswer, hbefore⟩ := (firstAnswer?_eq_some_iff _ _ _).mp hfirst
    obtain ⟨hle, hrest⟩ := (hrow _ _).mp hanswer
    exact ⟨rest, hrest, hle, rfl, fun i hi => ((hrow i none).mp (hbefore i hi)).2⟩
  · rintro ⟨rest, hrest, hle, rfl, hbefore⟩
    refine ⟨(start, rest), (firstAnswer?_eq_some_iff _ _ _).mpr ⟨(hrow _ _).mpr ⟨hle, hrest⟩, ?_⟩, rfl⟩
    intro i hi
    exact (hrow i none).mpr ⟨by omega, hbefore i hi⟩

theorem mem_suffixes (cs text : Text) : text ∈ suffixes cs ↔ text <:+ cs := by
  induction cs with
  | nil => simp [suffixes]
  | cons c cs ih => simp [suffixes, ih, List.suffix_cons_iff]

theorem isSome_firstAnswer?_iff (row : Row) :
    (firstAnswer? row).isSome = true ↔ ∃ rest, some rest ∈ row := by
  induction row with
  | nil => simp [firstAnswer?]
  | cons answer row ih => cases answer <;> simp [firstAnswer?, ih]

/-- A pattern is found in a candidate if it matches at the front of some suffix. -/
theorem hits_iff (pattern : Pattern) (candidate : Text) :
    pattern.hits candidate = true ↔ ∃ i, (remainder? pattern (candidate.drop i)).isSome = true := by
  rw [Pattern.hits, Pattern.span?, Option.isSome_map, table_eq_map_suffixes, isSome_firstAnswer?_iff]
  simp only [List.mem_map, mem_suffixes]
  constructor
  · rintro ⟨rest, text, hsuffix, hrest⟩
    rw [List.suffix_iff_eq_drop.mp hsuffix] at hrest
    exact ⟨_, Option.isSome_of_eq_some hrest⟩
  · rintro ⟨i, hi⟩
    obtain ⟨rest, hrest⟩ := Option.isSome_iff_exists.mp hi
    exact ⟨rest, _, List.drop_suffix i candidate, hrest⟩

end Leftmost

section Placing

variable (candidate : Text) (items : Pattern)

theorem isSome_remainder?_letter (letter : Letter) (start : Nat) :
    (remainder? (.letter letter :: items) (candidate.drop start)).isSome = true ↔
      (∃ c, candidate[start]? = some c ∧ Text.alike letter c = true) ∧
        (remainder? items (candidate.drop (start + 1))).isSome = true := by
  cases hc : candidate[start]? with
  | none =>
    have hdrop : candidate.drop start = [] := List.drop_eq_nil_of_le (List.getElem?_eq_none_iff.mp hc)
    simp [hdrop, remainder?]
  | some c =>
    obtain ⟨hlt, rfl⟩ := List.getElem?_eq_some_iff.mp hc
    rw [List.drop_eq_getElem_cons hlt, remainder?]
    split_ifs with ha <;> simp [ha]

theorem isSome_remainder?_anything (start : Nat) :
    (remainder? (.anything :: items) (candidate.drop start)).isSome = true ↔
      ∃ next, start ≤ next ∧ (∀ i, start ≤ i → i < next → candidate[i]? ≠ some lineFeed) ∧
        (remainder? items (candidate.drop next)).isSome = true := by
  constructor
  · intro h
    obtain ⟨rest, hrest⟩ := Option.isSome_iff_exists.mp h
    obtain ⟨gap, later, hsplit, hgap, hlater⟩ := gap_of_remainder? items _ rest hrest
    have hdrop : candidate.drop (start + gap.length) = later := by
      rw [← List.drop_drop, hsplit, List.drop_left]
    refine ⟨start + gap.length, Nat.le_add_right _ _, ?_, ?_⟩
    · intro i hstart hi hfeed
      have hplace : candidate[i]? = gap[i - start]? := by
        calc candidate[i]?
            = (candidate.drop start)[i - start]? := by rw [List.getElem?_drop, Nat.add_sub_cancel' hstart]
          _ = (gap ++ later)[i - start]? := by rw [hsplit]
          _ = gap[i - start]? := List.getElem?_append_left (by omega)
      rw [hplace] at hfeed
      exact hgap (List.mem_of_getElem? hfeed)
    · rw [hdrop, hlater]
      rfl
  · rintro ⟨next, hstart, hgap, h⟩
    have hsplit : candidate.drop start =
        (candidate.drop start).take (next - start) ++ candidate.drop next := by
      have hdrop := List.take_append_drop (next - start) (candidate.drop start)
      rw [List.drop_drop, Nat.add_sub_cancel' hstart] at hdrop
      exact hdrop.symm
    rw [hsplit]
    apply isSome_remainder?_of_gap _ _ _ _ h
    intro hmem
    obtain ⟨i, hfeed⟩ := List.mem_iff_getElem?.mp hmem
    rw [List.getElem?_take] at hfeed
    split_ifs at hfeed with hi
    rw [List.getElem?_drop] at hfeed
    exact hgap (start + i) (by omega) (by omega) hfeed

end Placing

/-- The letters can be placed from a place on exactly if the pattern matches there. -/
theorem isSome_remainder?_iff (letter : Letter) (letters candidate : Text) (start : Nat) :
    (remainder? (Pattern.ofLetters (letter :: letters)) (candidate.drop start)).isSome = true ↔
      ∃ places, Placement (letter :: letters) candidate (start :: places) := by
  induction letters generalizing letter start with
  | nil =>
    rw [ofLetters_cons, isSome_remainder?_letter]
    constructor
    · rintro ⟨⟨c, hc, ha⟩, -⟩
      exact ⟨[], placement_singleton letter c candidate start hc ha⟩
    · rintro ⟨places, h⟩
      refine ⟨(List.forall₂_cons.mp h.alike).1, ?_⟩
      change (remainder? [.anything] _).isSome = true
      rw [remainder?_rest_of_line]
      rfl
  | cons letter' letters ih =>
    rw [ofLetters_cons, isSome_remainder?_letter, isSome_remainder?_anything]
    constructor
    · rintro ⟨hletter, next, hnext, hgap, h⟩
      obtain ⟨places, hplaces⟩ := (ih letter' next).mp h
      exact ⟨next :: places, (placement_cons_iff _ _ _ _ _ _).mpr ⟨hletter, hnext, hgap, hplaces⟩⟩
    · rintro ⟨places, h⟩
      cases places with
      | nil => cases (List.forall₂_cons.mp h.alike).2
      | cons next places =>
        obtain ⟨hletter, hnext, hgap, hplaces⟩ := (placement_cons_iff _ _ _ _ _ _).mp h
        exact ⟨hletter, next, hnext, hgap, (ih letter' next).mpr ⟨places, hplaces⟩⟩

/-- A pattern is found exactly if its letters can be placed. -/
theorem hits_iff_placement (fragment candidate : Text) :
    (Pattern.ofLetters fragment).hits candidate = true ↔ ∃ places, Placement fragment candidate places := by
  rw [hits_iff]
  cases fragment with
  | nil =>
    have hempty : Placement [] candidate [] := ⟨.nil, .nil, .nil⟩
    have hmatch : (remainder? (Pattern.ofLetters []) (candidate.drop 0)).isSome = true := by
      simp [Pattern.ofLetters, remainder?]
    exact ⟨fun _ => ⟨[], hempty⟩, fun _ => ⟨0, hmatch⟩⟩
  | cons letter letters =>
    simp only [isSome_remainder?_iff]
    constructor
    · rintro ⟨start, places, h⟩
      exact ⟨start :: places, h⟩
    · rintro ⟨places, h⟩
      cases places with
      | nil => cases h.alike
      | cons start places => exact ⟨start, places, h⟩

section Embedding

/-- What matches at the front of a text holds letters like those of the fragment, in order. -/
theorem sublistForall₂_of_remainder? (letters cs rest : Text)
    (h : remainder? (Pattern.ofLetters letters) cs = some rest) :
    List.SublistForall₂ (fun a b => Text.alike a b = true) letters cs := by
  induction letters generalizing cs with
  | nil => exact .nil
  | cons letter letters ih =>
    cases cs with
    | nil =>
      rw [ofLetters_cons, remainder?] at h
      cases h
    | cons c cs =>
      rw [ofLetters_cons, remainder?] at h
      split_ifs at h with ha
      obtain ⟨gap, later, rfl, -, hlater⟩ := gap_of_remainder? _ cs rest h
      obtain ⟨part, hpart, hsub⟩ := List.sublistForall₂_iff.mp (ih later hlater)
      have hbehind := hsub.trans (List.sublist_append_right gap later)
      exact .cons ha (List.sublistForall₂_iff.mpr ⟨part, hpart, hbehind⟩)

/-- Where a fragment is found, letters like its own stand in order. -/
theorem sublistForall₂_of_hits (fragment candidate : Text)
    (h : (Pattern.ofLetters fragment).hits candidate = true) :
    List.SublistForall₂ (fun a b => Text.alike a b = true) fragment candidate := by
  obtain ⟨start, hstart⟩ := (hits_iff _ _).mp h
  obtain ⟨rest, hrest⟩ := Option.isSome_iff_exists.mp hstart
  obtain ⟨part, hpart, hsub⟩ := List.sublistForall₂_iff.mp (sublistForall₂_of_remainder? _ _ rest hrest)
  exact List.sublistForall₂_iff.mpr ⟨part, hpart, hsub.trans (List.drop_sublist start candidate)⟩

/-- A fragment is found in itself, without a gap. -/
theorem hits_self (fragment : Text) : (Pattern.ofLetters fragment).hits fragment = true := by
  have hfront : (remainder? (Pattern.ofLetters fragment) fragment).isSome = true := by
    induction fragment with
    | nil => simp [Pattern.ofLetters, remainder?]
    | cons letter letters ih =>
      rw [ofLetters_cons, remainder?, if_pos (Text.alike_refl letter)]
      exact isSome_remainder?_of_gap _ [] letters List.not_mem_nil ih
  exact (hits_iff _ _).mpr ⟨0, hfront⟩

end Embedding

section Stopping

theorem length_lineFeeds (text matched rest : Text) (start : Nat) (h : text.drop start = matched ++ rest) :
    ((List.range' start matched.length).filter fun i => text[i]? = some lineFeed).length =
      matched.count lineFeed := by
  induction matched generalizing start with
  | nil => simp
  | cons c matched ih =>
    have hhead : text[start]? = some c := by
      rw [← List.head?_drop, h]
      rfl
    have htail : text.drop (start + 1) = matched ++ rest := by
      rw [← List.drop_drop, h]
      rfl
    rw [List.length_cons, List.range'_succ, List.filter_cons, hhead, List.count_cons, ← ih (start + 1) htail]
    by_cases hc : c = lineFeed <;> simp [hc]

/-- The end of a match: as many line feeds are passed as are in the match, and the next one, if there is
one, stops it. -/
theorem stop_eq_lineFeed (text matched rest : Text) (start : Nat) (h : text.drop start = matched ++ rest)
    (hle : start ≤ text.length) (hr : rest = [] ∨ rest.head? = some lineFeed) :
    matched.count lineFeed ≤ (lineFeedsFrom text start).length ∧
      text.length - rest.length = (lineFeedsFrom text start).getD (matched.count lineFeed) text.length := by
  have hlength : text.length - start = matched.length + rest.length := by
    rw [← List.length_drop, h, List.length_append]
  have hsplit : lineFeedsFrom text start =
      ((List.range' start matched.length).filter fun i => text[i]? = some lineFeed) ++
        (List.range' (start + matched.length) rest.length).filter fun i => text[i]? = some lineFeed := by
    rw [lineFeedsFrom, hlength, ← List.range'_append_1, List.filter_append]
  have hpassed := length_lineFeeds text matched rest start h
  constructor
  · rw [hsplit, List.length_append, hpassed]
    exact Nat.le_add_right _ _
  · rw [hsplit, List.getD_append_right _ _ _ _ hpassed.le, hpassed, Nat.sub_self]
    cases rest with
    | nil => simp
    | cons c rest =>
      have hc : c = lineFeed := by simpa using hr
      have hhead : text[start + matched.length]? = some lineFeed := by
        rw [← List.getElem?_drop, h, List.getElem?_append_right le_rfl, Nat.sub_self, hc]
        rfl
      have hstop : text.length - (rest.length + 1) = start + matched.length := by
        rw [List.length_cons] at hlength
        omega
      rw [List.length_cons, List.range'_succ, List.filter_cons, hhead, hstop]
      simp

end Stopping

/-- The meaning of a fragment's pattern. It is found in a candidate exactly if the letters of the fragment can
be placed there. The match starts at the least place for the first letter. It stops at the line feed behind as
many line feeds as the fragment has, counted from the start, or at the end if there are no more. -/
theorem span_by_placements (fragment candidate : Text) (hf : fragment ≠ [])
    (hn : Letter.ofCode 0 ∉ fragment) :
    ∃ pattern, Pattern.ofFragment fragment = .ok pattern ∧
      ((pattern.span? candidate).isSome = true ↔ ∃ places, Placement fragment candidate places) ∧
      ∀ start stop, pattern.span? candidate = some (start, stop) →
        IsLeast {first | ∃ places, Placement fragment candidate (first :: places)} start ∧
        fragment.count lineFeed ≤ (lineFeedsFrom candidate start).length ∧
        stop = (lineFeedsFrom candidate start).getD (fragment.count lineFeed) candidate.length := by
  have hpattern : Pattern.ofFragment fragment = .ok (Pattern.ofLetters fragment) := by
    rw [Pattern.ofFragment, if_neg (mt List.contains_iff_mem.mp hn)]
  refine ⟨_, hpattern, hits_iff_placement fragment candidate, ?_⟩
  intro start stop hspan
  obtain ⟨rest, hrest, hle, rfl, hbefore⟩ := (span?_eq_some_iff _ _ _ _).mp hspan
  constructor
  · cases fragment with
    | nil => exact absurd rfl hf
    | cons letter letters =>
      refine ⟨(isSome_remainder?_iff _ _ _ _).mp (Option.isSome_of_eq_some hrest), ?_⟩
      intro first hfirst
      -- a placement further left would have been found first
      by_contra hless
      have hmatch := (isSome_remainder?_iff letter letters candidate first).mpr hfirst
      rw [hbefore first (by omega)] at hmatch
      cases hmatch
  · obtain ⟨matched, hmatched, hcount, hstop⟩ := match_of_remainder? fragment _ rest hf hrest
    rw [← hcount]
    exact stop_eq_lineFeed candidate matched rest start hmatched hle hstop

/-- A letter, a line feed and a letter: the match begins at the capital letter and goes on to the end of the
next line. -/
theorem span_by_placements_two_lines :
    Text.of "a\nb" ≠ [] ∧ Letter.ofCode 0 ∉ Text.of "a\nb" ∧
    ∃ pattern, Pattern.ofFragment "a\nb" = .ok pattern ∧ pattern.span? "x/A-\n-b-\nb" = some (2, 8) ∧
      (∃ places, Placement "a\nb" "x/A-\n-b-\nb" places) ∧
      IsLeast {first | ∃ places, Placement "a\nb" "x/A-\n-b-\nb" (first :: places)} 2 ∧
      8 = (lineFeedsFrom "x/A-\n-b-\nb" 2).getD 1 10 := by
  have hsome : Text.of "a\nb" ≠ [] := by decide
  have hnul : Letter.ofCode 0 ∉ Text.of "a\nb" := by decide
  obtain ⟨pattern, hpattern, hfound, hspan⟩ :=
    span_by_placements "a\nb" "x/A-\n-b-\nb" hsome hnul
  have hat : pattern.span? "x/A-\n-b-\nb" = some (2, 8) := by
    cases hpattern
    decide +kernel
  obtain ⟨hleast, -, hstop⟩ := hspan 2 8 hat
  exact ⟨hsome, hnul, pattern, hpattern, hat, hfound.mp (Option.isSome_of_eq_some hat), hleast, hstop⟩

end Search

end QueryHints
