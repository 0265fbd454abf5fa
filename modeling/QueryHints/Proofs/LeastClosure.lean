import Mathlib.Logic.Function.Iterate
import QueryHints.Proofs.TreePaths
import QueryHints.Schema.Index

namespace QueryHints.Schema

/-- Wherever the inputs of a rule stand at the top, the tree has its outputs. -/
def Closed (rules : List Rule) (tree : Tree) : Prop :=
  ∀ rule ∈ rules, (∀ input ∈ rule.inputs, input ∈ tree.keys) → rule.outputs ≤ tree

def LeastClosed (rules : List Rule) (start tree : Tree) : Prop :=
  IsLeast {above | start ≤ above ∧ Closed rules above} tree

theorem isReady_iff (tree : Tree) (rule : Rule) :
    rule.isReady tree = true ↔ ∀ input ∈ rule.inputs, input ∈ tree.keys := by
  simp only [Rule.isReady, List.all_eq_true, Tree.mem_keys]

section Applying

variable (rules : List Rule) (tree : Tree)

/-- Applying rules adds their outputs and nothing else. -/
theorem hasPath_applyAll (path : List Text) : (applyAll rules tree).hasPath path =
    (tree.hasPath path || rules.any fun rule => rule.outputs.hasPath path) := by
  unfold applyAll
  induction rules generalizing tree with
  | nil => simp
  | cons rule rest ih =>
    rw [List.foldl_cons, ih, Tree.hasPath_merge _ _ rule.distinct, List.any_cons, Bool.or_assoc]

theorem le_applyAll : tree ≤ applyAll rules tree := by
  intro path h
  rw [hasPath_applyAll, h, Bool.true_or]

theorem outputs_le_applyAll (rule : Rule) (hr : rule ∈ rules) :
    rule.outputs ≤ applyAll rules tree := by
  intro path h
  rw [hasPath_applyAll, Bool.or_eq_true]
  exact Or.inr (List.any_eq_true.mpr ⟨rule, hr, h⟩)

end Applying

section Closing

variable (waiting : List Rule) (tree : Tree)

theorem close_of_none_ready (h : (ready tree waiting).isEmpty = true) : close waiting tree = tree := by
  rw [close, dif_pos h]

theorem close_of_some_ready (h : ¬ (ready tree waiting).isEmpty = true) :
    close waiting tree = close (unready tree waiting) (applyAll (ready tree waiting) tree) := by
  rw [close, dif_neg h]

theorem le_close : tree ≤ close waiting tree := by
  induction waiting, tree using close.induct with
  | case1 waiting tree h => rw [close_of_none_ready waiting tree h]
  | case2 waiting tree h ih =>
    rw [close_of_some_ready waiting tree h]
    exact (le_applyAll _ tree).trans ih

/-- No rule is missed: one that was applied keeps its outputs, and none that waits is ready. -/
theorem closed_close : Closed waiting (close waiting tree) := by
  induction waiting, tree using close.induct with
  | case1 waiting tree h =>
    rw [close_of_none_ready waiting tree h]
    intro rule hrule hinputs
    have hready : rule ∈ ready tree waiting :=
      List.mem_filter.mpr ⟨hrule, (isReady_iff tree rule).mpr hinputs⟩
    rw [List.isEmpty_iff.mp h] at hready
    cases hready
  | case2 waiting tree h ih =>
    rw [close_of_some_ready waiting tree h]
    intro rule hrule hinputs
    -- a rule that is ready now is applied in this round, any other one is still waiting
    by_cases hr : rule.isReady tree = true
    · have hnow := outputs_le_applyAll (ready tree waiting) tree rule (List.mem_filter.mpr ⟨hrule, hr⟩)
      exact hnow.trans (le_close _ _)
    · exact ih rule (List.mem_filter.mpr ⟨hrule, by simpa using hr⟩) hinputs

/-- Nothing comes in without reason: what holds of all paths of the tree and passes from the inputs of a
rule to its outputs holds of all paths of the closed tree. -/
theorem hasPath_close_induction (holds : List Text → Prop)
    (hstart : ∀ path, tree.hasPath path = true → holds path)
    (hrules : ∀ rule ∈ waiting, (∀ input ∈ rule.inputs, holds [input]) →
      ∀ path, rule.outputs.hasPath path = true → holds path)
    (path : List Text) (hp : (close waiting tree).hasPath path = true) : holds path := by
  induction waiting, tree using close.induct with
  | case1 waiting tree h =>
    rw [close_of_none_ready waiting tree h] at hp
    exact hstart path hp
  | case2 waiting tree h ih =>
    rw [close_of_some_ready waiting tree h] at hp
    refine ih ?_ ?_ hp
    · -- the tree of the next round has the old paths and the outputs of rules that were ready
      intro known hk
      rw [hasPath_applyAll, Bool.or_eq_true, List.any_eq_true] at hk
      rcases hk with hk | ⟨rule, hr, hk⟩
      · exact hstart known hk
      · obtain ⟨hrule, hready⟩ := List.mem_filter.mp hr
        refine hrules rule hrule (fun input hi => ?_) known hk
        simp only [Rule.isReady, List.all_eq_true, Tree.hasKey_eq_hasPath] at hready
        exact hstart [input] (hready input hi)
    · intro rule hr
      exact hrules rule (List.mem_filter.mp hr).1

/-- Closing gives the least closed tree above the one that it starts from. -/
theorem close_leastClosed : LeastClosed waiting tree (close waiting tree) := by
  refine ⟨⟨le_close waiting tree, closed_close waiting tree⟩, ?_⟩
  rintro above ⟨habove, hclosed⟩ path hp
  refine hasPath_close_induction waiting tree (fun path => above.hasPath path = true) habove
    ?_ path hp
  intro rule hrule hinputs
  apply hclosed rule hrule
  intro input hi
  rw [Tree.mem_keys, Tree.hasKey_eq_hasPath]
  exact hinputs input hi

end Closing

def round (state : List Rule × Tree) : List Rule × Tree :=
  (unready state.2 state.1, applyAll (ready state.2 state.1) state.2)

/-- Closing ends within as many rounds as there are rules, when no rule that still waits is ready. -/
theorem close_rounds (waiting : List Rule) (tree : Tree) :
    ∃ rounds ≤ waiting.length, ∃ left, round^[rounds] (waiting, tree) = (left, close waiting tree) ∧
      ready (close waiting tree) left = [] := by
  induction waiting, tree using close.induct with
  | case1 waiting tree h =>
    rw [close_of_none_ready waiting tree h]
    exact ⟨0, Nat.zero_le _, waiting, rfl, List.isEmpty_iff.mp h⟩
  | case2 waiting tree h ih =>
    rw [close_of_some_ready waiting tree h]
    obtain ⟨rounds, hrounds, left, hleft, hready⟩ := ih
    have hless := length_unready_lt (by simpa using h : (ready tree waiting).isEmpty = false)
    refine ⟨rounds + 1, by omega, left, ?_, hready⟩
    rw [Function.iterate_succ_apply]
    exact hleft

/-- The tree at each level of a path, described without a program: at the root the least closed tree, and
inside a key the least closed tree above what stands below that key one level further out. -/
def LevelTree (rules : List Rule) : List Text → Tree → Prop
  | [], tree => LeastClosed rules .empty tree
  | key :: path, tree => ∃ outer, LevelTree rules path outer ∧
      LeastClosed rules ((outer.below? key).getD .empty) tree

section Levels

variable (rules : List Rule)

theorem keys_subset_of_le {a b : Tree} (hab : a ≤ b) (key : Text) (hk : key ∈ a.keys) :
    key ∈ b.keys := by
  rw [Tree.mem_keys, Tree.hasKey_eq_hasPath] at hk ⊢
  exact hab [key] hk

theorem closed_of_equiv {a b : Tree} (hab : a ≤ b) (hba : b ≤ a) (ha : Closed rules a) :
    Closed rules b := by
  intro rule hrule hinputs
  exact (ha rule hrule fun input hi => keys_subset_of_le hba input (hinputs input hi)).trans hab

theorem below_mono {a b : Tree} (hab : a ≤ b) (key : Text) :
    (a.below? key).getD .empty ≤ (b.below? key).getD .empty := by
  intro path hp
  cases path with
  | nil => exact Tree.hasPath_nil _
  | cons k rest =>
    rw [Tree.hasPath_below _ _ _ (List.cons_ne_nil k rest)] at hp ⊢
    exact hab (key :: k :: rest) hp

/-- Only the key paths of the start matter. -/
theorem leastClosed_congr {start other tree : Tree} (hso : start ≤ other) (hos : other ≤ start) :
    LeastClosed rules start tree ↔ LeastClosed rules other tree := by
  have hsets : {above : Tree | start ≤ above ∧ Closed rules above} =
      {above | other ≤ above ∧ Closed rules above} := by
    ext above
    exact ⟨fun h => ⟨hos.trans h.1, h.2⟩, fun h => ⟨hso.trans h.1, h.2⟩⟩
  rw [LeastClosed, LeastClosed, hsets]

theorem leastClosed_iff_close (start tree : Tree) :
    LeastClosed rules start tree ↔ tree ≤ close rules start ∧ close rules start ≤ tree := by
  obtain ⟨⟨habove, hclosed⟩, hleast⟩ := close_leastClosed rules start
  constructor
  · intro h
    exact ⟨h.2 ⟨habove, hclosed⟩, hleast h.1⟩
  · rintro ⟨hle, hge⟩
    exact ⟨⟨habove.trans hge, closed_of_equiv rules hge hle hclosed⟩,
      fun above h => hle.trans (hleast h)⟩

/-- Level by level the trees are those that the description gives. -/
theorem levelTree_iff (path : List Text) (tree : Tree) :
    LevelTree rules path tree ↔ tree ≤ treeAt rules path ∧ treeAt rules path ≤ tree := by
  induction path generalizing tree with
  | nil => exact leastClosed_iff_close rules .empty tree
  | cons key path ih =>
    have hlevel := leastClosed_iff_close rules (((treeAt rules path).below? key).getD .empty) tree
    constructor
    · rintro ⟨outer, houter, htree⟩
      obtain ⟨hle, hge⟩ := (ih outer).mp houter
      exact hlevel.mp ((leastClosed_congr rules (below_mono hle key) (below_mono hge key)).mp htree)
    · intro h
      exact ⟨treeAt rules path, (ih _).mpr ⟨le_rfl, le_rfl⟩, hlevel.mpr h⟩

end Levels

/-- Derivations of key paths inside the joins of a path, innermost key first: by a rule whose inputs are
derived at the same level, where a rule without inputs needs nothing, or from one level further out. -/
inductive Derives (rules : List Rule) : (path : List Text) → (keys : List Text) → Prop
  | rule {path keys : List Text} (rule : Rule) (known : rule ∈ rules)
      (inputs : ∀ input ∈ rule.inputs, Derives rules path [input])
      (outputs : rule.outputs.hasPath keys = true) : Derives rules path keys
  | inside {path keys : List Text} (key : Text) (outer : Derives rules path (key :: keys)) :
      Derives rules (key :: path) keys

section Derivations

variable (rules : List Rule)

/-- The tree inside any path is closed. -/
theorem closed_treeAt (path : List Text) : Closed rules (treeAt rules path) := by
  cases path <;> exact closed_close rules _

/-- What can be derived is reachable. -/
theorem hasPath_of_derives (path keys : List Text) (hd : Derives rules path keys) :
    (treeAt rules path).hasPath keys = true := by
  induction hd with
  | @rule path keys rule known _ outputs ih =>
    refine closed_treeAt rules path rule known (fun input hi => ?_) keys outputs
    rw [Tree.mem_keys, Tree.hasKey_eq_hasPath]
    exact ih input hi
  | @inside path keys key _ ih =>
    cases keys with
    | nil => exact Tree.hasPath_nil _
    | cons k rest =>
      apply le_close rules (((treeAt rules path).below? key).getD .empty)
      rw [Tree.hasPath_below _ _ _ (List.cons_ne_nil k rest)]
      exact ih

/-- Closing derives what it adds, from what can be derived of the tree that it starts with. -/
theorem derives_of_close (start : Tree) (path : List Text)
    (hstart : ∀ keys, keys ≠ [] → start.hasPath keys = true → Derives rules path keys)
    (keys : List Text) (hk : keys ≠ []) (hp : (close rules start).hasPath keys = true) :
    Derives rules path keys := by
  have h := hasPath_close_induction rules start (fun keys => keys ≠ [] → Derives rules path keys)
    (fun keys hp hk => hstart keys hk hp)
    (fun rule hrule hinputs keys hout _ =>
      .rule rule hrule (fun input hi => hinputs input hi (List.cons_ne_nil input [])) hout)
  exact h keys hp hk

/-- What is reachable can be derived. -/
theorem derives_of_hasPath (path keys : List Text) (hk : keys ≠ [])
    (hp : (treeAt rules path).hasPath keys = true) : Derives rules path keys := by
  induction path generalizing keys with
  | nil =>
    refine derives_of_close rules .empty [] (fun keys hk hempty => ?_) keys hk hp
    cases keys with
    | nil => exact absurd rfl hk
    | cons k rest => simp at hempty
  | cons key path ih =>
    refine derives_of_close rules _ (key :: path) (fun keys hk hbelow => ?_) keys hk hp
    rw [Tree.hasPath_below _ _ _ hk] at hbelow
    exact .inside key (ih (key :: keys) (List.cons_ne_nil key keys) hbelow)

end Derivations

/-- Closure is a least fixpoint. Closing a tree under the rules of an index ends within as many rounds as
there are rules and gives the least closed tree above it. The tree inside a path comes of closing level by
level, so up to the order of keys it is the one that least closed trees give, and a key is reachable there
exactly if it can be derived there. -/
theorem close_least_fixpoint (index : Index) (rules : List Rule) (hr : index.rules = .table rules) :
    (∀ start, (∃ rounds ≤ rules.length, ∃ left,
        round^[rounds] (rules, start) = (left, close rules start) ∧
        ready (close rules start) left = []) ∧
      IsLeast {tree | start ≤ tree ∧ ∀ rule ∈ rules,
        (∀ input ∈ rule.inputs, input ∈ tree.keys) → rule.outputs ≤ tree} (close rules start)) ∧
    (index.treeAt [] = close rules .empty ∧ ∀ key path, index.treeAt (key :: path) =
      close rules (((index.treeAt path).below? key).getD .empty)) ∧
    (∀ path tree, LevelTree rules path tree ↔ tree ≤ index.treeAt path ∧ index.treeAt path ≤ tree) ∧
    (∀ path key, key ∈ index.reachable path ↔ Derives rules path [key]) := by
  have htree (path : List Text) : index.treeAt path = treeAt rules path := by
    simp only [Index.treeAt, hr]
  refine ⟨fun start => ⟨close_rounds rules start, close_leastClosed rules start⟩, ?_, ?_, ?_⟩
  · simp only [htree]
    exact ⟨rfl, fun _ _ => rfl⟩
  · intro path tree
    rw [htree]
    exact levelTree_iff rules path tree
  · intro path key
    rw [Index.reachable, htree, Tree.mem_keys, Tree.hasKey_eq_hasPath]
    exact ⟨derives_of_hasPath rules path [key] (List.cons_ne_nil key []),
      hasPath_of_derives rules path [key]⟩

def circularRules : List Rule :=
  [⟨[], .node "a" (.ofKeys ["x"]) .empty, by decide⟩, ⟨["a"], .ofKeys ["b"], by decide⟩,
    ⟨["b"], .node "a" (.ofKeys ["y"]) .empty, by decide⟩, ⟨["x", "y"], .ofKeys ["z"], by decide⟩]

theorem close_least_fixpoint_circular :
    (Index.mk (.table circularRules) [] []).rules = .table circularRules ∧
    Derives circularRules ["a"] ["z"] ∧ ¬ Derives circularRules [] ["z"] := by
  have h := (close_least_fixpoint ⟨.table circularRules, [], []⟩ circularRules rfl).2.2.2
  refine ⟨rfl, (h ["a"] "z").mp ?_, fun hd => ?_⟩
  · decide +kernel
  · exact absurd ((h [] "z").mpr hd) (by decide +kernel)

end QueryHints.Schema
