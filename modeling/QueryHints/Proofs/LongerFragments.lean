import Mathlib.Data.List.Chain
import Mathlib.Data.List.Perm.Subperm
import QueryHints.Proofs.LetterPlacements
import QueryHints.Proofs.RankOrder

namespace QueryHints.Search

open Letter (lineFeed)

section Places

variable (typed longer candidate : Text)

/-- The places of the first letters are a placement of those. -/
theorem placement_take (places : List Nat) (count : Nat) (h : Placement longer candidate places) :
    Placement (longer.take count) candidate (places.take count) where
  ascending := h.ascending.sublist (List.take_sublist count places)
  alike := List.forall₂_take count h.alike
  unbroken := h.unbroken.take count

/-- What is related to a list item by item has, for each part of the list, a part that is related to it. -/
theorem sublistForall₂_of_sublist {α β : Type} {R : α → β → Prop} {part whole : List α} {others : List β}
    (hs : part.Sublist whole) (h : List.Forall₂ R whole others) : List.SublistForall₂ R part others := by
  induction hs generalizing others with
  | slnil => exact .nil
  | cons a _ ih =>
    cases h with
    | cons _ hrest => exact .cons_right (ih hrest)
  | cons_cons a _ ih =>
    cases h with
    | cons ha hrest => exact .cons ha (ih hrest)

/-- Letters can be left out where no line feed can get into a gap. -/
theorem placement_of_sublist (places : List Nat) (hs : typed.Sublist longer) (hl : lineFeed ∉ candidate)
    (h : Placement longer candidate places) : ∃ kept, Placement typed candidate kept := by
  obtain ⟨kept, hkept, hpart⟩ := List.sublistForall₂_iff.mp (sublistForall₂_of_sublist hs h.alike)
  refine ⟨kept, h.ascending.sublist hpart, hkept, ?_⟩
  apply List.Pairwise.isChain
  apply List.pairwise_of_forall
  intro place next i _ _ hi
  exact hl (List.mem_of_getElem? hi)

/-- What the longer fragment finds, its beginning finds as well. -/
theorem hits_of_prefix (hp : typed <+: longer) (h : (Pattern.ofLetters longer).hits candidate = true) :
    (Pattern.ofLetters typed).hits candidate = true := by
  obtain ⟨places, hplaces⟩ := (hits_iff_placement longer candidate).mp h
  have htake := placement_take longer candidate places typed.length hplaces
  rw [← List.prefix_iff_eq_take.mp hp] at htake
  exact (hits_iff_placement typed candidate).mpr ⟨_, htake⟩

theorem hits_of_sublist (hs : typed.Sublist longer) (hl : lineFeed ∉ candidate)
    (h : (Pattern.ofLetters longer).hits candidate = true) : (Pattern.ofLetters typed).hits candidate = true := by
  obtain ⟨places, hplaces⟩ := (hits_iff_placement longer candidate).mp h
  exact (hits_iff_placement typed candidate).mpr (placement_of_sublist typed longer candidate places hs hl hplaces)

end Places

theorem isBare_of_sublist (typed longer : Text) (hs : typed.Sublist longer) (hb : isBare longer = true) :
    isBare typed = true := by
  rw [isBare, List.all_eq_true] at hb ⊢
  intro c hc
  exact hb c (hs.subset hc)

/-- A fragment without a NUL character is ranked, and what it keeps is a part of the candidates, up to order. -/
theorem texts_of_rank (fragment : Text) (candidates : List Text) (hn : Letter.ofCode 0 ∉ fragment) :
    ∃ ranked, rank fragment candidates = .ok ranked ∧ (ranked.map (·.text)).Perm
      (candidates.filter fun c => isBare fragment || (Pattern.ofLetters fragment).hits c) := by
  by_cases hb : isBare fragment = true
  · refine ⟨_, rankBy_bare _ _ _ fragment candidates hb, ?_⟩
    rw [texts_rows (fun _ => Binary64.ofInt 0)]
    simp [hb]
  · refine ⟨_, rankBy_typed _ _ _ fragment candidates hb hn, ?_⟩
    rw [texts_rows (score fragment)]
    simp only [hb, Bool.false_or]
    exact List.mergeSort_perm _ _

theorem filter_sublist_of_imp {α : Type} (list : List α) (p q : α → Bool)
    (h : ∀ a ∈ list, p a = true → q a = true) : (list.filter p).Sublist (list.filter q) := by
  have hboth : list.filter p = (list.filter q).filter p := by
    rw [List.filter_filter]
    apply List.filter_congr
    intro a ha
    cases hp : p a with
    | false => rfl
    | true => rw [h a ha hp]; rfl
  rw [hboth]
  exact List.filter_sublist

/-- A fragment that grows keeps fewer candidates, each at most as often as before. New letters may stand behind the
old ones; in candidates of one line they may stand anywhere between them. -/
theorem longer_fragment_narrows (typed longer : Text) (candidates : List Text) (hn : Letter.ofCode 0 ∉ longer)
    (hgrown : typed <+: longer ∨ typed.Sublist longer ∧ ∀ c ∈ candidates, lineFeed ∉ c) :
    ∃ wide narrow, rank typed candidates = .ok wide ∧ rank longer candidates = .ok narrow ∧
      (narrow.map (·.text)).Subperm (wide.map (·.text)) := by
  have hsub : typed.Sublist longer := by
    rcases hgrown with hprefix | ⟨hsub, -⟩
    · exact hprefix.sublist
    · exact hsub
  have hhits (c : Text) (hc : c ∈ candidates) (h : (Pattern.ofLetters longer).hits c = true) :
      (Pattern.ofLetters typed).hits c = true := by
    rcases hgrown with hprefix | ⟨-, hline⟩
    · exact hits_of_prefix typed longer c hprefix h
    · exact hits_of_sublist typed longer c hsub (hline c hc) h
  obtain ⟨wide, hwide, hkept⟩ := texts_of_rank typed candidates (mt (hsub.subset ·) hn)
  obtain ⟨narrow, hnarrow, hkept'⟩ := texts_of_rank longer candidates hn
  refine ⟨wide, narrow, hwide, hnarrow, ?_⟩
  have hfewer := filter_sublist_of_imp candidates
    (fun c => isBare longer || (Pattern.ofLetters longer).hits c)
    (fun c => isBare typed || (Pattern.ofLetters typed).hits c) <| by
      intro c hc h
      rw [Bool.or_eq_true] at h ⊢
      exact h.imp (isBare_of_sublist typed longer hsub) (hhits c hc)
  exact hkept'.subperm.trans (hfewer.subperm.trans hkept.symm.subperm)

/-- A fragment grows out of its first letters and out of a bare trigger, and, on one line, out of scattered letters. -/
theorem longer_fragment_narrows_name :
    Letter.ofCode 0 ∉ Text.of "name" ∧ Text.of "na" <+: Text.of "name" ∧ (Text.of "ne").Sublist "name" ∧
    (∀ c ∈ [Text.of ":user/name", Text.of ":nose", Text.of ":user/name"], lineFeed ∉ c) ∧
    (∃ wide narrow, rank "na" [":na\nme", ":name", ":nab"] = .ok wide ∧
      rank "name" [":na\nme", ":name", ":nab"] = .ok narrow ∧
      (narrow.map Ranked.text).Subperm (wide.map Ranked.text)) ∧
    (∃ wide narrow, rank "ne" [":user/name", ":nose", ":user/name"] = .ok wide ∧
      rank "name" [":user/name", ":nose", ":user/name"] = .ok narrow ∧
      (narrow.map Ranked.text).Subperm (wide.map Ranked.text)) := by
  have hn : Letter.ofCode 0 ∉ Text.of "name" := by decide
  have hprefix : Text.of "na" <+: Text.of "name" := by decide
  have hsub : (Text.of "ne").Sublist "name" := by decide
  have hline : ∀ c ∈ [Text.of ":user/name", Text.of ":nose", Text.of ":user/name"], lineFeed ∉ c := by decide
  exact ⟨hn, hprefix, hsub, hline, longer_fragment_narrows "na" "name" _ hn (Or.inl hprefix),
    longer_fragment_narrows "ne" "name" _ hn (Or.inr ⟨hsub, hline⟩)⟩

/-- A letter between two others may pass a line feed that their gap cannot pass. -/
example : (Text.of "ab").Sublist "a\nb" ∧ (Pattern.ofLetters "a\nb").hits "a\nb" = true ∧
    (Pattern.ofLetters "ab").hits "a\nb" = false := by
  decide +kernel

end QueryHints.Search
