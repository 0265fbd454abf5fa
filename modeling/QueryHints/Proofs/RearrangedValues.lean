import Mathlib.Data.List.Nodup
import QueryHints.Proofs.Attempts
import QueryHints.Proofs.NameSets
import QueryHints.Proofs.ShownValues
import QueryHints.Proofs.TreePaths
import QueryHints.Schema.Decode

namespace QueryHints

/-- The second value comes of the first by putting items of lists and fields of objects in another order.
The fields of an object have different names. -/
inductive Json.Rearranged : Json → Json → Prop
  | refl (v : Json) : Rearranged v v
  | trans {u v w : Json} (first : Rearranged u v) (second : Rearranged v w) : Rearranged u w
  | items {items others : List Json} (order : items.Perm others) : Rearranged (.list items) (.list others)
  | fields {fields others : Fields} (distinct : (fields.map Prod.fst).Nodup)
      (order : fields.Perm others) : Rearranged (.object fields) (.object others)
  | inside (before after : Fields) (name : Text) {v w : Json} (value : Rearranged v w) :
      Rearranged (.object (before ++ (name, v) :: after)) (.object (before ++ (name, w) :: after))

namespace Tree

def SamePaths (a b : Tree) : Prop :=
  ∀ path, a.hasPath path = b.hasPath path

/-- The empty path is in every tree, so only the others count. -/
theorem samePaths_of_cons (a b : Tree)
    (h : ∀ key path, a.hasPath (key :: path) = b.hasPath (key :: path)) : SamePaths a b := by
  intro path
  cases path with
  | nil => rw [hasPath_nil, hasPath_nil]
  | cons key rest => exact h key rest

theorem samePaths_set (t u a b : Tree) (ht : SamePaths t u) (ha : SamePaths a b) (key : Text) :
    SamePaths (t.set key a) (u.set key b) := by
  apply samePaths_of_cons
  intro k path
  rw [hasPath_set, hasPath_set, ha path, ht (k :: path)]

theorem samePaths_ofFields (fields : Json.Fields) (t u : Tree) (h : SamePaths t u) :
    SamePaths (ofFields t fields) (ofFields u fields) := by
  induction fields generalizing t u with
  | nil => simpa only [ofFields] using h
  | cons field rest ih =>
    rw [ofFields, ofFields]
    exact ih _ _ (samePaths_set t u _ _ h (fun _ => rfl) field.1)

theorem ofFields_append (tree : Tree) (before after : Json.Fields) :
    ofFields tree (before ++ after) = ofFields (ofFields tree before) after := by
  induction before generalizing tree with
  | nil => rw [List.nil_append, ofFields]
  | cons field rest ih => rw [List.cons_append, ofFields, ofFields, ih]

theorem hasPath_ofKeys (keys : List Text) (key : Text) (path : List Text) :
    (ofKeys keys).hasPath (key :: path) = true ↔ key ∈ keys ∧ path = [] := by
  have hfold (tree : Tree) :
      (keys.foldl (fun tree key => tree.set key empty) tree).hasPath (key :: path) = true ↔
        key ∈ keys ∧ path = [] ∨ key ∉ keys ∧ tree.hasPath (key :: path) = true := by
    induction keys generalizing tree with
    | nil => simp
    | cons first rest ih =>
      have hempty : empty.hasPath path = true ↔ path = [] := by cases path <;> simp
      rw [List.foldl_cons, ih, hasPath_set]
      by_cases hf : first = key
      · subst hf
        simp only [if_true, hempty, List.mem_cons_self, not_true_eq_false, false_and, or_false, true_and]
        tauto
      · simp only [if_neg hf, List.mem_cons, Ne.symm hf, false_or]
  rw [ofKeys, hfold]
  simp

/-- The key paths of an object: a field's name, and then a key path of its value. -/
theorem hasPath_ofFields (fields : Json.Fields) (hn : (fields.map Prod.fst).Nodup) (tree : Tree)
    (key : Text) (path : List Text) :
    (ofFields tree fields).hasPath (key :: path) = true ↔
      (∃ v, (key, v) ∈ fields ∧ (ofJson v).hasPath path = true) ∨
        key ∉ fields.map Prod.fst ∧ tree.hasPath (key :: path) = true := by
  induction fields generalizing tree with
  | nil => simp [ofFields]
  | cons field rest ih =>
    obtain ⟨name, v⟩ := field
    obtain ⟨hname, hrest⟩ := List.nodup_cons.mp hn
    rw [ofFields, ih hrest, hasPath_set]
    by_cases hk : name = key
    · -- no later field has the name, so the value is not replaced
      subst hk
      have hnone (w : Json) : (name, w) ∉ rest := fun h => hname (List.mem_map.mpr ⟨_, h, rfl⟩)
      simp [hnone, hname]
    · have hk' : key ≠ name := Ne.symm hk
      simp [hk, hk']

/-- Rearranged values describe the same nested map. -/
theorem samePaths_ofJson (v w : Json) (h : v.Rearranged w) : SamePaths (ofJson v) (ofJson w) := by
  induction h with
  | refl v => exact fun _ => rfl
  | trans _ _ first second => exact fun path => (first path).trans (second path)
  | items order =>
    apply samePaths_of_cons
    intro key path
    rw [ofJson, ofJson, Bool.eq_iff_iff, hasPath_ofKeys, hasPath_ofKeys, (order.map _).mem_iff]
  | @fields fields others distinct order =>
    apply samePaths_of_cons
    intro key path
    have hnames := order.map Prod.fst
    rw [ofJson, ofJson, Bool.eq_iff_iff, hasPath_ofFields fields distinct,
      hasPath_ofFields others (hnames.nodup_iff.mp distinct)]
    simp only [order.mem_iff, hnames.mem_iff]
  | inside before after name _ ih =>
    rw [ofJson, ofJson, ofFields_append, ofFields_append, ofFields, ofFields]
    exact samePaths_ofFields after _ _ (samePaths_set _ _ _ _ (fun _ => rfl) ih name)

end Tree

namespace Json

def inputsListed : Json → List Text
  | .text s => Text.words s
  | .list items => items.map shown
  | .object fields => fields.map Prod.fst
  | _ => []

def textsListed : Json → List Text
  | .text s => s.map fun c => [c]
  | .list items => items.filterMap fun
    | .text s => some s
    | _ => none
  | .object fields => fields.map Prod.fst
  | _ => []

def ListsTexts (v : Json) : Prop :=
  ∀ items, v = .list items → ∀ item ∈ items, ∃ s, item = .text s

/-- Rearranged values list the same inputs. -/
theorem mem_inputsListed (v w : Json) (h : v.Rearranged w) (s : Text) :
    s ∈ v.inputsListed ↔ s ∈ w.inputsListed := by
  induction h with
  | refl v => exact Iff.rfl
  | trans _ _ first second => exact first.trans second
  | items order => exact (order.map shown).mem_iff
  | fields _ order => exact (order.map Prod.fst).mem_iff
  | inside before after name _ _ => simp [inputsListed]

/-- Rearranged values name the same texts. -/
theorem mem_textsListed (v w : Json) (h : v.Rearranged w) (s : Text) :
    s ∈ v.textsListed ↔ s ∈ w.textsListed := by
  induction h with
  | refl v => exact Iff.rfl
  | trans _ _ first second => exact first.trans second
  | items order => exact (order.filterMap _).mem_iff
  | fields _ order => exact (order.map Prod.fst).mem_iff
  | inside before after name _ _ => simp [textsListed]

theorem listed_of_void (v : Json) (hv : v.isVoid = true) :
    v.inputsListed = [] ∧ v.textsListed = [] := by
  cases v with
  | text s => rw [List.isEmpty_iff.mp hv]; exact ⟨rfl, rfl⟩
  | list items => rw [List.isEmpty_iff.mp hv]; exact ⟨rfl, rfl⟩
  | object fields => rw [List.isEmpty_iff.mp hv]; exact ⟨rfl, rfl⟩
  | null | bool _ | int _ | real _ => exact ⟨rfl, rfl⟩

end Json

namespace Schema

theorem readInputs_eq_listed (limits : Limits) (v : Json) (inputs : List Text)
    (h : readInputs limits v = .ok inputs) : inputs = v.inputsListed := by
  unfold readInputs at h
  split_ifs at h with hvoid
  · cases h
    exact (v.listed_of_void hvoid).1.symm
  · cases v with
    | list items => exact Json.showAll?_eq_ok _ items inputs ((mapError_eq_ok_iff _ _ _).mp h)
    | text _ | object _ => cases h; rfl
    | null | bool _ | int _ | real _ => cases h

theorem readNameList_of_texts (items : List Json) (ht : ∀ item ∈ items, ∃ s, item = .text s) :
    readNameList items = .ok ((Json.list items).textsListed.map .text) := by
  induction items with
  | nil => rfl
  | cons item rest ih =>
    obtain ⟨s, rfl⟩ := ht item List.mem_cons_self
    have hrest := ih fun other h => ht other (List.mem_cons_of_mem _ h)
    rw [readNameList, hrest]
    rfl

/-- Among texts nothing is lost or changed when names are read. -/
theorem readNames_eq_listed (v : Json) (ht : v.ListsTexts) (names : Names)
    (h : readNames v = .ok names) : names = .ofTexts v.textsListed := by
  unfold readNames at h
  split_ifs at h with hvoid
  · cases h
    rw [(v.listed_of_void hvoid).2]
    rfl
  · cases v with
    | list items =>
      simp only [readNameList_of_texts items (ht items rfl), Except.map, Except.ok.injEq] at h
      exact h.symm
    | text _ | object _ => cases h; rfl
    | null | bool _ | int _ | real _ => cases h

end Schema

theorem Names.mem_ofTexts (texts : List Text) (s : Text) :
    .text s ∈ Names.ofTexts texts ↔ s ∈ texts := by
  obtain ⟨keys, -, hmem, heq⟩ := Names.ofTexts_eq_map texts
  rw [heq, ← hmem]
  simp

end QueryHints
