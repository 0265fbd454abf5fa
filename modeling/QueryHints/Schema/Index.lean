import QueryHints.Schema.Name
import QueryHints.Schema.Tree

/-!
A schema index: which attributes are reachable from which. A rule says that whoever has all of its inputs
reaches its outputs; rules without inputs hold at the root. `close` applies rules until none is left that
could add something, and `treeAt` does so at every level of a path.
-/

namespace QueryHints

/-- Inputs are sorted and distinct, so equal lists are equal sets. -/
structure Rule where
  inputs : List Text
  outputs : Tree
  distinct : outputs.Distinct
  deriving Repr, DecidableEq

def Rule.inputSet (inputs : List Text) : List Text :=
  inputs.eraseDups.mergeSort fun a b => a ≤ b

def Rule.joinedWith (rule other : Rule) : Rule :=
  ⟨rule.inputs, rule.outputs.merge other.outputs, Tree.distinct_merge rule.distinct other.distinct⟩

def Rule.isReady (tree : Tree) (rule : Rule) : Bool :=
  rule.inputs.all tree.hasKey

namespace Schema

def ready (tree : Tree) (rules : List Rule) : List Rule :=
  rules.filter (Rule.isReady tree)

def unready (tree : Tree) (rules : List Rule) : List Rule :=
  rules.filter fun rule => !rule.isReady tree

theorem length_unready_lt {tree : Tree} {rules : List Rule} (h : (ready tree rules).isEmpty = false) :
    (unready tree rules).length < rules.length := by
  obtain ⟨rule, member⟩ := List.isEmpty_eq_false_iff_exists_mem.mp h
  obtain ⟨known, isReady⟩ := List.mem_filter.mp member
  exact List.length_filter_lt_length_iff_exists.mpr ⟨rule, known, by simp [isReady]⟩

def applyAll (rules : List Rule) (tree : Tree) : Tree :=
  rules.foldl (fun tree rule => tree.merge rule.outputs) tree

/-- Applies waiting rules in rounds until none of those left is ready. -/
def close (waiting : List Rule) (tree : Tree) : Tree :=
  if _h : (ready tree waiting).isEmpty then tree
  else close (unready tree waiting) (applyAll (ready tree waiting) tree)
termination_by waiting.length
decreasing_by exact length_unready_lt (by simpa using _h)

/-- What is reachable inside the joins of a path, innermost key first. -/
def treeAt (rules : List Rule) (path : List Text) : Tree :=
  path.foldr (fun key outer => close rules ((outer.below? key).getD .empty)) (close rules .empty)

end Schema

inductive Rules
  | table (rules : List Rule)
  | unusable (value : Json)

structure Index where
  rules : Rules
  idents : Names
  ignored : Names

namespace Index

def isWellFormed (index : Index) : Bool :=
  match index.rules with
  | .table _ => true
  | .unusable _ => false

def knowsAtRoot (index : Index) (key : Text) : Bool :=
  match index.rules with
  | .table rules =>
    match rules.find? fun rule => rule.inputs.isEmpty with
    | some rule => rule.outputs.hasKey key
    | none => false
  | .unusable _ => false

def treeAt (index : Index) (path : List Text) : Tree :=
  match index.rules with
  | .table rules => Schema.treeAt rules path
  | .unusable _ => .empty

def reachable (index : Index) (path : List Text) : List Text :=
  (index.treeAt path).keys

def ruleCount (index : Index) : Nat :=
  match index.rules with
  | .table rules => rules.length
  | .unusable _ => 0

end Index

end QueryHints
