import QueryHints.Json.Display

namespace QueryHints

inductive Tree
  | empty
  | node (key : Text) (below : Tree) (beside : Tree)
  deriving Repr, DecidableEq, Inhabited

namespace Tree

def keys : Tree → List Text
  | empty => []
  | node key _ beside => key :: beside.keys

def below? (key : Text) : Tree → Option Tree
  | empty => none
  | node k below beside => if k = key then some below else beside.below? key

def hasKey (tree : Tree) (key : Text) : Bool :=
  (tree.below? key).isSome

def isEmpty : Tree → Bool
  | empty => true
  | node .. => false

/-- Puts a tree below a key. A known key keeps its place, a new one comes last. -/
def set : Tree → (key : Text) → (tree : Tree) → Tree
  | empty, key, tree => node key tree empty
  | node k below beside, key, tree =>
    if k = key then node k tree beside else node k below (beside.set key tree)

theorem below?_set (t : Tree) (key k : Text) (tree : Tree) :
    (t.set key tree).below? k = if key = k then some tree else t.below? k := by
  induction t with
  | empty => rfl
  | node j below beside _ ih =>
    by_cases h : j = key
    · subst h
      by_cases hk : j = k <;> simp [set, below?, hk]
    · by_cases hk : j = k
      · subst hk
        simp [set, below?, h, Ne.symm h]
      · simp [set, below?, h, hk, ih]

def merge : Tree → Tree → Tree
  | a, empty => a
  | a, node key below beside =>
    merge (a.set key (match a.below? key with
      | some known => merge known below
      | none => below)) beside

def Distinct : Tree → Prop
  | empty => True
  | node key below beside => beside.below? key = none ∧ below.Distinct ∧ beside.Distinct

instance decidableDistinct : (tree : Tree) → Decidable tree.Distinct
  | empty => isTrue trivial
  | node key below beside =>
    have := decidableDistinct below
    have := decidableDistinct beside
    inferInstanceAs (Decidable (beside.below? key = none ∧ below.Distinct ∧ beside.Distinct))

theorem distinct_empty : empty.Distinct := trivial

theorem distinct_below? {t tree : Tree} {key : Text} (ht : t.Distinct)
    (hk : t.below? key = some tree) : tree.Distinct := by
  induction t with
  | empty => simp [below?] at hk
  | node j below beside _ ih =>
    by_cases h : j = key
    · simp only [below?, h, if_true, Option.some.injEq] at hk
      exact hk ▸ ht.2.1
    · simp only [below?, h, if_false] at hk
      exact ih ht.2.2 hk

theorem distinct_set {t tree : Tree} (ht : t.Distinct) (hn : tree.Distinct) (key : Text) :
    (t.set key tree).Distinct := by
  induction t with
  | empty => exact ⟨rfl, hn, distinct_empty⟩
  | node j below beside _ ih =>
    by_cases h : j = key
    · simp only [set, h, if_true]
      exact ⟨h ▸ ht.1, hn, ht.2.2⟩
    · simp only [set, h, if_false]
      exact ⟨by rw [below?_set, if_neg (Ne.symm h)]; exact ht.1, ht.2.1, ih ht.2.2⟩

/-- Merging adds no key twice. -/
theorem distinct_merge {a b : Tree} (ha : a.Distinct) (hb : b.Distinct) :
    (a.merge b).Distinct := by
  induction b generalizing a with
  | empty => exact ha
  | node key below beside ihBelow ihBeside =>
    rw [merge]
    apply ihBeside _ hb.2.2
    apply distinct_set ha
    cases hk : a.below? key with
    | none => exact hb.2.1
    | some known => exact ihBelow (distinct_below? ha hk) hb.2.1

def hasPath : List Text → Tree → Bool
  | [], _ => true
  | key :: path, tree =>
    match tree.below? key with
    | some below => hasPath path below
    | none => false

def ofKeys (keys : List Text) : Tree :=
  keys.foldl (fun tree key => tree.set key empty) empty

mutual

/-- The tree that a value describes: an object level by level, a list as keys. Anything else has no
outputs. -/
def ofJson : Json → Tree
  | .object fields => ofFields empty fields
  | .list items => ofKeys (items.map Json.shown)
  | _ => empty

def ofFields (tree : Tree) : List (Text × Json) → Tree
  | [] => tree
  | (name, v) :: rest => ofFields (tree.set name (ofJson v)) rest

end

theorem distinct_ofKeys (keys : List Text) : (ofKeys keys).Distinct := by
  have h (tree : Tree) (ht : tree.Distinct) :
      (keys.foldl (fun tree key => tree.set key empty) tree).Distinct := by
    induction keys generalizing tree with
    | nil => exact ht
    | cons key rest ih => exact ih _ (distinct_set ht distinct_empty key)
  exact h empty distinct_empty

mutual

/-- Whatever a value describes, no key comes twice. -/
theorem distinct_ofJson : (v : Json) → (ofJson v).Distinct
  | .object fields => by rw [ofJson]; exact distinct_ofFields fields distinct_empty
  | .list items => by rw [ofJson]; exact distinct_ofKeys _
  | .null | .bool _ | .int _ | .real _ | .text _ => by simp [ofJson, Distinct]

theorem distinct_ofFields {tree : Tree} :
    (fields : List (Text × Json)) → tree.Distinct → (ofFields tree fields).Distinct
  | [], ht => by rw [ofFields]; exact ht
  | (name, v) :: rest, ht => by
    rw [ofFields]
    exact distinct_ofFields rest (distinct_set ht (distinct_ofJson v) name)

end

def toFields : Tree → List (Text × Json)
  | empty => []
  | node key below beside => (key, .object below.toFields) :: beside.toFields

def toJson (tree : Tree) : Json :=
  .object tree.toFields

end Tree

end QueryHints
