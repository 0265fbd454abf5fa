import Mathlib.Order.MinMax
import Mathlib.Tactic.SplitIfs
import QueryHints.Json.Display

namespace QueryHints.Json

mutual

def depth : Json → Nat
  | list items => itemsDepth items + 1
  | object fields => fieldsDepth fields + 1
  | null | bool _ | int _ | real _ | text _ => 1

def itemsDepth : List Json → Nat
  | [] => 0
  | v :: rest => max v.depth (itemsDepth rest)

def fieldsDepth : List (Text × Json) → Nat
  | [] => 0
  | (_, v) :: rest => max v.depth (fieldsDepth rest)

end

mutual

def hasLong : Json → Bool
  | int n => !Numeral.isWritable n
  | list items => itemsHaveLong items
  | object fields => fieldsHaveLong fields
  | null | bool _ | real _ | text _ => false

def itemsHaveLong : List Json → Bool
  | [] => false
  | v :: rest => v.hasLong || itemsHaveLong rest

def fieldsHaveLong : List (Text × Json) → Bool
  | [] => false
  | (_, v) :: rest => v.hasLong || fieldsHaveLong rest

end

def Finds (room depth : Nat) (long : Bool) : Option ShowFault → Prop
  | none => depth ≤ room ∧ long = false
  | some .unwritable => long = true
  | some .nested => room < depth
  | some .crowded => False

section Finding

variable {room depth depth' : Nat} {long long' : Bool} {fault fault' : Option ShowFault}

/-- One more value around takes one more room. -/
theorem Finds.around (h : Finds room depth long fault) : Finds (room + 1) (depth + 1) long fault := by
  rcases fault with - | - | - | -
  · exact ⟨Nat.succ_le_succ h.1, h.2⟩
  · exact h
  · exact Nat.succ_lt_succ h
  · exact h

theorem Finds.or (h : Finds room depth long fault) (h' : Finds room depth' long' fault') :
    Finds room (max depth depth') (long || long') (fault.or fault') := by
  rcases fault with - | - | - | -
  · obtain ⟨hdepth, rfl⟩ := h
    rcases fault' with - | - | - | -
    · exact ⟨max_le hdepth h'.1, h'.2⟩
    · exact h'
    · exact lt_max_of_lt_right h'
    · exact h'
  · have hlong : long = true := h
    simp [Finds, hlong]
  · exact lt_max_of_lt_left h
  · exact h

end Finding

theorem depth_pos (v : Json) : 0 < v.depth := by
  cases v <;> simp [depth]

mutual

/-- What hinders a value from being written, if anything does, is a number in it or its depth. -/
theorem finds_literalFault? (room : Nat) :
    (v : Json) → Finds room v.depth v.hasLong (literalFault? room v)
  | list items => by
    cases room with
    | zero => exact depth_pos (list items)
    | succ room =>
      rw [depth, hasLong, literalFault?]
      exact (finds_itemsFault? room items).around
  | object fields => by
    cases room with
    | zero => exact depth_pos (object fields)
    | succ room =>
      rw [depth, hasLong, literalFault?]
      exact (finds_fieldsFault? room fields).around
  | int n => by
    cases room with
    | zero => exact depth_pos (int n)
    | succ room =>
      rw [literalFault?, hasLong]
      cases hn : Numeral.isWritable n with
      | true => exact ⟨Nat.le_add_left 1 room, rfl⟩
      | false => rfl
  | null | bool _ | real _ | text _ => by
    cases room with
    | zero => exact depth_pos _
    | succ room => exact ⟨Nat.le_add_left 1 room, rfl⟩

theorem finds_itemsFault? (room : Nat) :
    (items : List Json) → Finds room (itemsDepth items) (itemsHaveLong items) (itemsFault? room items)
  | [] => ⟨Nat.zero_le room, rfl⟩
  | v :: rest => (finds_literalFault? room v).or (finds_itemsFault? room rest)

theorem finds_fieldsFault? (room : Nat) :
    (fields : List (Text × Json)) →
      Finds room (fieldsDepth fields) (fieldsHaveLong fields) (fieldsFault? room fields)
  | [] => ⟨Nat.zero_le room, rfl⟩
  | (_, v) :: rest => (finds_literalFault? room v).or (finds_fieldsFault? room rest)

end

/-- A text can be shown as it is; any other value if it is not too deep and has no long number. -/
def Showable (room : Nat) (v : Json) : Prop :=
  v.kind = .text ∨ v.depth ≤ room ∧ v.hasLong = false

section Showing

variable (room : Nat) (v : Json)

theorem showFault?_of_not_text (h : v.kind ≠ .text) :
    showFault? room v = if room = 0 then some .crowded else literalFault? room v := by
  cases v with
  | text s => exact absurd rfl h
  | null | bool _ | int _ | real _ | list _ | object _ => cases room <;> simp [showFault?]

/-- A value can be shown exactly if it is showable. -/
theorem showFault?_eq_none_iff : showFault? room v = none ↔ v.Showable room := by
  by_cases htext : v.kind = .text
  · cases v with
    | text s => simp [showFault?, Showable, htext]
    | null | bool _ | int _ | real _ | list _ | object _ => cases htext
  · have hfinds := finds_literalFault? room v
    have hpos := v.depth_pos
    rw [showFault?_of_not_text room v htext, Showable]
    simp only [htext, false_or]
    split_ifs with hroom
    · simp only [false_iff]
      omega
    · rcases hfault : literalFault? room v with - | - | - | -
      · simpa [hfault, Finds] using hfinds
      · simp only [hfault, Finds] at hfinds
        simp [hfinds]
      · simp only [hfault, Finds] at hfinds
        simp only [reduceCtorEq, false_iff]
        omega
      · rw [hfault] at hfinds
        exact hfinds.elim

/-- The room is blamed only if the value is deeper, and a text never is. -/
theorem lt_depth_of_showFault? (fault : ShowFault) (h : showFault? room v = some fault)
    (hdepth : fault.fault = .depth) : v.kind ≠ .text ∧ room < v.depth := by
  have hfinds := finds_literalFault? room v
  have hpos := v.depth_pos
  by_cases htext : v.kind = .text
  · have hnone := (showFault?_eq_none_iff room v).mpr (Or.inl htext)
    rw [hnone] at h
    cases h
  · refine ⟨htext, ?_⟩
    rw [showFault?_of_not_text room v htext] at h
    split_ifs at h with hroom
    · omega
    · rw [h] at hfinds
      cases fault with
      | unwritable => cases hdepth
      | nested => exact hfinds
      | crowded => exact hfinds.elim

end Showing

theorem showAll?_of_showable (room : Nat) (items : List Json) (h : ∀ item ∈ items, item.Showable room) :
    showAll? room items = .ok (items.map shown) := by
  have hnone : items.findSome? (showFault? room) = none := by
    simpa [List.findSome?_eq_none_iff, showFault?_eq_none_iff] using h
  rw [showAll?, hnone]

theorem showAll?_eq_ok (room : Nat) (items : List Json) (texts : List Text)
    (h : showAll? room items = .ok texts) : texts = items.map shown := by
  unfold showAll? at h
  split at h
  · cases h
  · cases h
    rfl

/-- The first item that cannot be shown is told. -/
theorem showAll?_eq_error_iff (room : Nat) (items : List Json) (fault : ShowFault) :
    showAll? room items = .error fault ↔ items.findSome? (showFault? room) = some fault := by
  unfold showAll?
  cases items.findSome? (showFault? room) <;> simp

end QueryHints.Json
