import QueryHints.Proofs.RearrangedValues

namespace QueryHints.Tree

/-- The same tree but for the order of its keys, at any level. Of two equal keys the first counts, so only
different ones may change places. -/
inductive Reordered : Tree → Tree → Prop
  | empty : Reordered empty empty
  | node (key : Text) {below other beside further : Tree} (inside : Reordered below other)
      (after : Reordered beside further) : Reordered (node key below beside) (node key other further)
  | swap {key next : Text} (differ : key ≠ next) (below deeper beside : Tree) :
      Reordered (node key below (node next deeper beside)) (node next deeper (node key below beside))
  | trans {a b c : Tree} (first : Reordered a b) (second : Reordered b c) : Reordered a c

namespace Reordered

theorem refl (t : Tree) : t.Reordered t := by
  induction t with
  | empty => exact .empty
  | node key below beside ihBelow ihBeside => exact .node key ihBelow ihBeside

theorem symm {a b : Tree} (h : a.Reordered b) : b.Reordered a := by
  induction h with
  | empty => exact .empty
  | node key _ _ ihInside ihAfter => exact .node key ihInside ihAfter
  | swap differ below deeper beside => exact .swap differ.symm deeper below beside
  | trans _ _ ihFirst ihSecond => exact ihSecond.trans ihFirst

/-- The order of keys makes no difference to the key paths. -/
theorem samePaths {a b : Tree} (h : a.Reordered b) : SamePaths a b := by
  induction h with
  | empty => exact fun _ => rfl
  | node key _ _ ihInside ihAfter =>
    apply samePaths_of_cons
    intro k path
    rw [hasPath_node, hasPath_node, ihInside path, ihAfter (k :: path)]
  | @swap key next differ below deeper beside =>
    apply samePaths_of_cons
    intro k path
    simp only [hasPath_node]
    split_ifs with hkey hnext
    · exact absurd (hkey.trans hnext.symm) differ
    all_goals rfl
  | trans _ _ ihFirst ihSecond => exact fun path => (ihFirst path).trans (ihSecond path)

theorem distinct {a b : Tree} (h : a.Reordered b) (ha : a.Distinct) : b.Distinct := by
  induction h with
  | empty => exact ha
  | @node key below other beside further _ after ihInside ihAfter =>
    obtain ⟨hkey, hbelow, hbeside⟩ := ha
    refine ⟨?_, ihInside hbelow, ihAfter hbeside⟩
    rw [below?_eq_none_iff] at hkey ⊢
    exact fun path => (after.samePaths (key :: path)).symm.trans (hkey path)
  | @swap key next differ below deeper beside =>
    obtain ⟨hkey, hbelow, hnext, hdeeper, hbeside⟩ := ha
    rw [below?, if_neg differ.symm] at hkey
    exact ⟨by rw [below?, if_neg differ]; exact hnext, hdeeper, hkey, hbelow, hbeside⟩
  | trans _ _ ihFirst ihSecond => exact ihSecond (ihFirst ha)

end Reordered

/-- Any key can be brought to the front. -/
theorem exists_reordered_front (t below : Tree) (key : Text) (hk : t.below? key = some below) :
    ∃ rest, t.Reordered (node key below rest) := by
  induction t with
  | empty => simp [below?] at hk
  | node first inside beside _ ih =>
    rw [below?] at hk
    split_ifs at hk with h
    · cases hk
      exact ⟨beside, h ▸ .refl _⟩
    · -- it comes to the front of the others, and then changes places with the first key
      obtain ⟨rest, hrest⟩ := ih hk
      exact ⟨node first inside rest, (Reordered.node first (.refl inside) hrest).trans (.swap h _ _ _)⟩

/-- Key paths determine a tree, up to the order of its keys. -/
theorem reordered_of_samePaths (a b : Tree) (ha : a.Distinct) (hb : b.Distinct) (hsame : SamePaths a b) :
    a.Reordered b := by
  induction a generalizing b with
  | empty =>
    cases b with
    | empty => exact .empty
    | node key below beside => simpa [hasPath_node] using hsame [key]
  | node key below beside ihBelow ihBeside =>
    have hkey : b.hasKey key = true := by
      rw [hasKey_eq_hasPath, ← hsame [key]]
      simp [hasPath_node]
    obtain ⟨other, hother⟩ := Option.isSome_iff_exists.mp hkey
    obtain ⟨rest, hfront⟩ := exists_reordered_front b other key hother
    have hdistinct : (node key other rest).Distinct := hfront.distinct hb
    have hnodes : SamePaths (node key below beside) (node key other rest) :=
      fun path => (hsame path).trans (hfront.samePaths path)
    have hbelow : SamePaths below other := fun path => by
      simpa [hasPath_node] using hnodes (key :: path)
    have hbeside : SamePaths beside rest := by
      apply samePaths_of_cons
      intro k path
      by_cases hk : key = k
      · subst hk
        rw [(below?_eq_none_iff beside key).mp ha.1, (below?_eq_none_iff rest key).mp hdistinct.1]
      · simpa [hasPath_node, hk] using hnodes (k :: path)
    have hinside := ihBelow other ha.2.1 hdistinct.2.1 hbelow
    have hafter := ihBeside rest ha.2.2 hdistinct.2.2 hbeside
    exact (Reordered.node key hinside hafter).trans hfront.symm

theorem merge_empty (a : Tree) : a.merge empty = a := by
  rw [merge]

section Laws

variable {a b c : Tree} (ha : a.Distinct) (hb : b.Distinct) (hc : c.Distinct)

include ha

theorem merge_self : (a.merge a).Reordered a := by
  apply reordered_of_samePaths _ _ (distinct_merge ha ha) ha
  intro path
  rw [hasPath_merge a a ha, Bool.or_self]

theorem empty_merge : (empty.merge a).Reordered a := by
  apply reordered_of_samePaths _ _ (distinct_merge distinct_empty ha) ha
  apply samePaths_of_cons
  intro key path
  rw [hasPath_merge empty a ha, hasPath_empty_cons, Bool.false_or]

include hb

/-- What is merged may itself be put in another order first. -/
theorem merge_congr {other further : Tree} (hother : a.Reordered other) (hfurther : b.Reordered further) :
    (a.merge b).Reordered (other.merge further) := by
  have hb' := hfurther.distinct hb
  apply reordered_of_samePaths _ _ (distinct_merge ha hb) (distinct_merge (hother.distinct ha) hb')
  intro path
  rw [hasPath_merge a b hb, hasPath_merge other further hb', hother.samePaths, hfurther.samePaths]

theorem merge_comm : (a.merge b).Reordered (b.merge a) := by
  apply reordered_of_samePaths _ _ (distinct_merge ha hb) (distinct_merge hb ha)
  intro path
  rw [hasPath_merge a b hb, hasPath_merge b a ha, Bool.or_comm]

include hc

theorem merge_assoc : ((a.merge b).merge c).Reordered (a.merge (b.merge c)) := by
  have hbc := distinct_merge hb hc
  apply reordered_of_samePaths _ _ (distinct_merge (distinct_merge ha hb) hc) (distinct_merge ha hbc)
  intro path
  rw [hasPath_merge _ c hc, hasPath_merge a b hb, hasPath_merge a _ hbc, hasPath_merge b c hc,
    Bool.or_assoc]

end Laws

/-- Merging unites the key paths of two trees and leaves no key twice. The order of keys aside, the result
depends therefore neither on the order of keys in what is merged nor on the order and grouping of the merges,
and merging a tree with itself or with the empty tree changes nothing. -/
theorem merge_unites_paths (a b c : Tree) (ha : a.Distinct) (hb : b.Distinct) (hc : c.Distinct) :
    (∀ path, (a.merge b).hasPath path = true ↔ a.hasPath path = true ∨ b.hasPath path = true) ∧
    (a.merge b).Distinct ∧
    (∀ other further, a.Reordered other → b.Reordered further →
      (a.merge b).Reordered (other.merge further)) ∧
    (a.merge b).Reordered (b.merge a) ∧
    ((a.merge b).merge c).Reordered (a.merge (b.merge c)) ∧
    (a.merge a).Reordered a ∧
    (a.merge .empty).Reordered a ∧ (Tree.empty.merge a).Reordered a := by
  have hpaths : ∀ path, (a.merge b).hasPath path = true ↔
      a.hasPath path = true ∨ b.hasPath path = true := by
    intro path
    rw [hasPath_merge a b hb, Bool.or_eq_true]
  have hright : (a.merge .empty).Reordered a := by
    rw [merge_empty]
    exact .refl a
  exact ⟨hpaths, distinct_merge ha hb, fun _ _ => merge_congr ha hb, merge_comm ha hb,
    merge_assoc ha hb hc, merge_self ha, hright, empty_merge ha⟩

def namedFriends : Tree :=
  .node "app/users" (.node "user/friends" (.ofKeys ["user/name"]) .empty) .empty

def numberedFriends : Tree :=
  .node "app/version" .empty
    (.node "app/users" (.node "user/age" .empty (.node "user/friends" (.ofKeys ["user/id"]) .empty)) .empty)

/-- Two trees that meet in a key at the top and again in one below it. The order of the merged keys tells which
tree came first, and nothing else does. -/
theorem merge_unites_paths_of_friends :
    namedFriends.Distinct ∧ numberedFriends.Distinct ∧
    (namedFriends.merge numberedFriends).hasPath ["app/users", "user/friends", "user/name"] = true ∧
    (namedFriends.merge numberedFriends).hasPath ["app/users", "user/friends", "user/id"] = true ∧
    namedFriends.merge numberedFriends ≠ numberedFriends.merge namedFriends ∧
    (namedFriends.merge numberedFriends).Reordered (numberedFriends.merge namedFriends) ∧
    ((namedFriends.merge numberedFriends).merge namedFriends).Reordered
      (namedFriends.merge (numberedFriends.merge namedFriends)) := by
  have hn : namedFriends.Distinct := by decide +kernel
  have hm : numberedFriends.Distinct := by decide +kernel
  obtain ⟨hpaths, -, -, hcomm, hassoc, -⟩ :=
    merge_unites_paths namedFriends numberedFriends namedFriends hn hm hn
  refine ⟨hn, hm, ?_, ?_, by decide +kernel, hcomm, hassoc⟩
  · exact (hpaths _).mpr (Or.inl (by decide +kernel))
  · exact (hpaths _).mpr (Or.inr (by decide +kernel))

end QueryHints.Tree
