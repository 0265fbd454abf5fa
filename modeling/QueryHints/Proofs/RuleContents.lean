import Mathlib.Data.List.Nodup
import QueryHints.Proofs.LeastClosure
import QueryHints.Proofs.NameSets
import QueryHints.Schema.Decode

namespace QueryHints

theorem Rule.nodup_eraseDups (inputs : List Text) : inputs.eraseDups.Nodup := by
  induction hl : inputs.length using Nat.strong_induction_on generalizing inputs with
  | _ length ih =>
    cases inputs with
    | nil => exact List.nodup_nil
    | cons input rest =>
      rw [List.eraseDups_cons, List.nodup_cons]
      constructor
      · simp [List.mem_eraseDups]
      · have hle := List.length_filter_le (fun other => !other == input) rest
        exact ih _ (by rw [List.length_cons] at hl; omega) _ rfl

/-- Inputs in canonical order are determined by their members. -/
theorem Rule.inputSet_eq_of_mem_iff (inputs others : List Text)
    (hmem : ∀ input, input ∈ inputs ↔ input ∈ others) : inputSet inputs = inputSet others := by
  apply Text.mergeSort_eq_of_mem_iff _ _ (nodup_eraseDups inputs) (nodup_eraseDups others)
  intro input
  rw [List.mem_eraseDups, List.mem_eraseDups, hmem]

namespace Schema

def Gives (rules : List Rule) (inputs path : List Text) : Prop :=
  ∃ rule ∈ rules, rule.inputs = inputs ∧ rule.outputs.hasPath path = true

theorem gives_cons (rule : Rule) (rest : List Rule) (inputs path : List Text) :
    Gives (rule :: rest) inputs path ↔
      rule.inputs = inputs ∧ rule.outputs.hasPath path = true ∨ Gives rest inputs path := by
  simp [Gives]

/-- Whatever the first rules give, the second give too. The empty path is no matter of rules. -/
def Covers (rules others : List Rule) : Prop :=
  ∀ inputs key path, Gives rules inputs (key :: path) → Gives others inputs (key :: path)

section Closing

variable (rules others : List Rule) (hcovers : Covers rules others)

include hcovers

theorem closed_of_covers (tree : Tree) (hclosed : Closed others tree) : Closed rules tree := by
  intro rule hrule hinputs path hp
  cases path with
  | nil => exact Tree.hasPath_nil tree
  | cons key rest =>
    obtain ⟨other, hother, hsame, hpath⟩ := hcovers rule.inputs key rest ⟨rule, hrule, rfl, hp⟩
    exact hclosed other hother (hsame ▸ hinputs) (key :: rest) hpath

/-- Closing is monotone, in the tree and in the rules. -/
theorem close_mono (start tree : Tree) (hle : start ≤ tree) : close rules start ≤ close others tree := by
  have habove : start ≤ close others tree := hle.trans (le_close others tree)
  have hclosed := closed_of_covers rules others hcovers _ (closed_close others tree)
  exact (close_leastClosed rules start).2 ⟨habove, hclosed⟩

/-- Rules that give more reach more inside every path. -/
theorem treeAt_mono (path : List Text) : treeAt rules path ≤ treeAt others path := by
  induction path with
  | nil => exact close_mono rules others hcovers .empty .empty le_rfl
  | cons key path ih => exact close_mono rules others hcovers _ _ (below_mono ih key)

end Closing

/-- Rules that give the same reach the same. -/
theorem hasPath_treeAt_of_covers (rules others : List Rule) (hto : Covers rules others)
    (hfrom : Covers others rules) (path keys : List Text) :
    (treeAt rules path).hasPath keys = (treeAt others path).hasPath keys :=
  Bool.eq_iff_iff.mpr
    ⟨treeAt_mono rules others hto path keys, treeAt_mono others rules hfrom path keys⟩

def Separate (rules : List Rule) : Prop :=
  (rules.map Rule.inputs).Nodup

section Roots

variable (rules : List Rule) (index : Index) (hr : index.rules = .table rules) (key : Text)

include hr

theorem gives_of_knowsAtRoot (hk : index.knowsAtRoot key = true) : Gives rules [] [key] := by
  simp only [Index.knowsAtRoot, hr] at hk
  cases hfind : rules.find? fun rule => rule.inputs.isEmpty with
  | none => simp [hfind] at hk
  | some rule =>
    have hinputs : rule.inputs = [] := by simpa using List.find?_some hfind
    refine ⟨rule, List.mem_of_find?_eq_some hfind, hinputs, ?_⟩
    simpa only [hfind, Tree.hasKey_eq_hasPath] using hk

/-- The root knows what is given without inputs. -/
theorem knowsAtRoot_iff_gives (hs : Separate rules) :
    index.knowsAtRoot key = true ↔ Gives rules [] [key] := by
  refine ⟨gives_of_knowsAtRoot rules index hr key, ?_⟩
  rintro ⟨rule, hrule, hinputs, hpath⟩
  have hfind : rules.find? (fun rule => rule.inputs.isEmpty) = some rule := by
    cases hfirst : rules.find? fun rule => rule.inputs.isEmpty with
    | none => simpa [hinputs] using List.find?_eq_none.mp hfirst rule hrule
    | some first =>
      have hempty : first.inputs = [] := by simpa using List.find?_some hfirst
      have hmem := List.mem_of_find?_eq_some hfirst
      rw [List.inj_on_of_nodup_map hs hmem hrule (hempty.trans hinputs.symm)]
  simp only [Index.knowsAtRoot, hr, hfind]
  rwa [Tree.hasKey_eq_hasPath]

end Roots

section Adding

variable (new : Rule) (rules : List Rule)

theorem inputs_addRule (combine : Rule → Rule → Rule)
    (hcombine : ∀ rule, rule.inputs = new.inputs → (combine rule new).inputs = new.inputs) :
    (addRule combine new rules).map Rule.inputs =
      if new.inputs ∈ rules.map Rule.inputs then rules.map Rule.inputs
      else rules.map Rule.inputs ++ [new.inputs] := by
  induction rules with
  | nil => rfl
  | cons rule rest ih =>
    by_cases hi : rule.inputs = new.inputs
    · simp [addRule, hi, hcombine rule hi]
    · rw [addRule, if_neg hi, List.map_cons, ih]
      by_cases hmem : new.inputs ∈ rest.map Rule.inputs
      · simp only [List.map_cons, List.mem_cons, hmem, or_true, if_true]
      · simp [hmem, Ne.symm hi]

theorem separate_addRule (combine : Rule → Rule → Rule)
    (hcombine : ∀ rule, rule.inputs = new.inputs → (combine rule new).inputs = new.inputs)
    (hs : Separate rules) : Separate (addRule combine new rules) := by
  unfold Separate at hs ⊢
  rw [inputs_addRule new rules combine hcombine]
  split_ifs with hmem
  · exact hs
  · exact hs.append (List.nodup_singleton _) (by simpa using hmem)

/-- A rule that is added gives its outputs besides what its inputs gave before. -/
theorem gives_addRule (inputs path : List Text) :
    Gives (addRule Rule.joinedWith new rules) inputs path ↔
      Gives rules inputs path ∨ new.inputs = inputs ∧ new.outputs.hasPath path = true := by
  induction rules with
  | nil => simp [addRule, Gives]
  | cons rule rest ih =>
    by_cases hi : rule.inputs = new.inputs
    · have hjoined : (rule.joinedWith new).outputs.hasPath path = true ↔
          rule.outputs.hasPath path = true ∨ new.outputs.hasPath path = true := by
        rw [Rule.joinedWith, Tree.hasPath_merge _ _ new.distinct, Bool.or_eq_true]
      have hinputs : (rule.joinedWith new).inputs = new.inputs := hi
      rw [addRule, if_pos hi, gives_cons, gives_cons, hinputs, hi, hjoined]
      tauto
    · rw [addRule, if_neg hi, gives_cons, gives_cons, ih, or_assoc]

end Adding

end Schema

end QueryHints
