import Mathlib.Order.Bounds.Basic
import Mathlib.Tactic.SplitIfs
import QueryHints.Schema.Tree

namespace QueryHints.Tree

instance : LE Tree := ⟨fun a b => ∀ path, a.hasPath path = true → b.hasPath path = true⟩

instance : Preorder Tree where
  le_refl _ _ h := h
  le_trans _ _ _ hab hbc path h := hbc path (hab path h)

@[simp]
theorem hasPath_nil (t : Tree) : t.hasPath [] = true := by
  unfold hasPath
  rfl

theorem hasPath_cons (t : Tree) (key : Text) (path : List Text) :
    t.hasPath (key :: path) = (t.below? key).any fun below => below.hasPath path := by
  rw [hasPath]
  cases t.below? key <;> rfl

@[simp]
theorem hasPath_empty_cons (key : Text) (path : List Text) :
    empty.hasPath (key :: path) = false := by
  simp [hasPath_cons, below?]

/-- A path leads through the first key or through one beside it. -/
theorem hasPath_node (key k : Text) (below beside : Tree) (path : List Text) :
    (node key below beside).hasPath (k :: path) =
      if key = k then below.hasPath path else beside.hasPath (k :: path) := by
  rw [hasPath_cons, below?]
  split_ifs with h
  · rfl
  · rw [hasPath_cons]

/-- A key does not stand at the top if and only if no key path starts with it. -/
theorem below?_eq_none_iff (t : Tree) (key : Text) :
    t.below? key = none ↔ ∀ path, t.hasPath (key :: path) = false := by
  constructor
  · intro hk path
    rw [hasPath_cons, hk]
    rfl
  · intro h
    have hkey := h []
    rw [hasPath_cons] at hkey
    cases hk : t.below? key with
    | none => rfl
    | some below => simp [hk] at hkey

theorem hasKey_eq_hasPath (t : Tree) (key : Text) : t.hasKey key = t.hasPath [key] := by
  rw [hasPath_cons, hasKey]
  cases t.below? key <;> simp

theorem mem_keys (t : Tree) (key : Text) : key ∈ t.keys ↔ t.hasKey key = true := by
  induction t with
  | empty => simp [keys, hasKey, below?]
  | node k below beside _ ih =>
    by_cases h : k = key
    · simp [keys, hasKey, below?, h]
    · have hk : key ≠ k := Ne.symm h
      simpa [keys, hasKey, below?, h, hk] using ih

theorem hasPath_below (t : Tree) (key : Text) (path : List Text) (hp : path ≠ []) :
    ((t.below? key).getD empty).hasPath path = t.hasPath (key :: path) := by
  rw [hasPath_cons]
  cases t.below? key with
  | some below => rfl
  | none =>
    cases path with
    | nil => exact absurd rfl hp
    | cons k rest => simp

/-- Setting a key changes the key paths that start with it and no others. -/
theorem hasPath_set (t tree : Tree) (key k : Text) (path : List Text) :
    (t.set key tree).hasPath (k :: path) =
      if key = k then tree.hasPath path else t.hasPath (k :: path) := by
  rw [hasPath_cons, below?_set]
  split_ifs with h
  · rfl
  · rw [hasPath_cons]

/-- The key paths of a merged tree are those of the one and those of the other. -/
theorem hasPath_merge (a b : Tree) (hb : b.Distinct) (path : List Text) :
    (a.merge b).hasPath path = (a.hasPath path || b.hasPath path) := by
  induction b generalizing a path with
  | empty =>
    cases path with
    | nil => simp [merge]
    | cons k rest => simp [merge]
  | node key below beside ihBelow ihBeside =>
    cases path with
    | nil => simp
    | cons k rest =>
      rw [merge, ihBeside _ hb.2.2, hasPath_set]
      rw [hasPath_node]
      split_ifs with h
      · -- the key is merged here, and does not come again beside it
        subst h
        have hbeside := (below?_eq_none_iff beside key).mp hb.1 rest
        rw [hbeside, Bool.or_false, hasPath_cons a]
        cases a.below? key with
        | none => simp
        | some known => simpa using ihBelow known hb.2.1 rest
      · rfl

end QueryHints.Tree
