namespace QueryHints

structure Letter where
  code : Nat
  isLt : code < 0x110000
  deriving DecidableEq, Repr

namespace Letter

def ofChar (c : Char) : Letter :=
  ⟨c.toNat, by
    have h : c.toNat < 0xD800 ∨ 0xDFFF < c.toNat ∧ c.toNat < 0x110000 := c.valid
    omega⟩

@[simp]
theorem code_ofChar (c : Char) : (ofChar c).code = c.toNat := rfl

instance : Coe Char Letter := ⟨ofChar⟩

instance : Inhabited Letter := ⟨ofChar ' '⟩

abbrev lineFeed : Letter := '\n'

def replacement : Char := '\uFFFD'

def ofCode (code : Nat) : Letter :=
  if h : code < 0x110000 then ⟨code, h⟩ else ofChar replacement

def isSurrogate (a : Letter) : Bool :=
  0xD800 ≤ a.code && a.code < 0xE000

/-- The character of a letter. A surrogate has none and is replaced. -/
def toChar (a : Letter) : Char :=
  if a.isSurrogate then replacement else Char.ofNat a.code

/-- Characters come back from their letters. -/
@[simp]
theorem toChar_ofChar (c : Char) : (ofChar c).toChar = c := by
  have h : c.toNat < 0xD800 ∨ 0xDFFF < c.toNat ∧ c.toNat < 0x110000 := c.valid
  have hs : (ofChar c).isSurrogate = false := by
    simp only [isSurrogate, Bool.and_eq_false_imp, decide_eq_true_eq, decide_eq_false_iff_not]
    rw [code_ofChar]
    omega
  simp only [toChar, hs, Bool.false_eq_true, if_false]
  exact Char.ofNat_toNat c

instance : LE Letter := ⟨fun a b => a.code ≤ b.code⟩

instance : LT Letter := ⟨fun a b => a.code < b.code⟩

instance : DecidableLE Letter := fun a b => inferInstanceAs (Decidable (a.code ≤ b.code))

instance : DecidableLT Letter := fun a b => inferInstanceAs (Decidable (a.code < b.code))

theorem ext_code {a b : Letter} (h : a.code = b.code) : a = b := by
  cases a
  cases b
  simpa using h

instance : Std.IsLinearOrder Letter where
  le_refl a := Nat.le_refl a.code
  le_trans _ _ _ h k := Nat.le_trans h k
  le_antisymm _ _ h k := ext_code (Nat.le_antisymm h k)
  le_total a b := Nat.le_total a.code b.code

instance : Std.LawfulOrderLT Letter where
  lt_iff _ _ := Nat.lt_iff_le_and_not_ge

end Letter

abbrev Text := List Letter

namespace Text

def of (s : String) : Text :=
  s.toList.map Letter.ofChar

instance : Coe String Text := ⟨of⟩

def toString (t : Text) : String :=
  String.ofList (t.map Letter.toChar)

@[simp]
theorem toString_of (s : String) : (of s).toString = s := by
  simp [of, toString, Function.comp_def]

end Text

end QueryHints
