import QueryHints.Text.Letter
import QueryHints.Text.Normal.Makeup
import QueryHints.Text.Normal.Rank

namespace QueryHints.Text

/-- Hangul syllables are made of two or three letters by a rule: the numbers of the letters are the digits
of the number of the syllable. -/
def isSyllable (code : Nat) : Bool :=
  0xAC00 ≤ code && code < 0xAC00 + 19 * 21 * 28

def syllableParts (code : Nat) : List Nat :=
  let number := code - 0xAC00
  let ending := number % 28
  [0x1100 + number / (21 * 28), 0x1161 + number / 28 % 21]
    ++ (if ending = 0 then [] else [0x11A7 + ending])

def syllableOf? (a b : Nat) : Option Nat :=
  if 0x1100 ≤ a && a < 0x1113 && 0x1161 ≤ b && b < 0x1176 then
    some (0xAC00 + ((a - 0x1100) * 21 + (b - 0x1161)) * 28)
  else if isSyllable a && (a - 0xAC00) % 28 = 0 && 0x11A8 ≤ b && b < 0x11C3 then
    some (a + (b - 0x11A7))
  else none

/-- No letter is made of parts of parts of parts of parts. -/
def makeupDepth : Nat := 3

def takenApart : (depth : Nat) → (code : Nat) → List Nat
  | 0, code => [code]
  | depth + 1, code =>
    if isSyllable code then syllableParts code
    else match makeups.find? fun m => m.code == code with
      | some m => m.parts.flatMap (takenApart depth)
      | none => [code]

/-- Puts a letter behind others, which are given last one first. A mark goes before marks of higher
rank. -/
def settle (code : Nat) : List Nat → List Nat
  | [] => [code]
  | last :: earlier =>
    if rank code ≠ 0 && rank code < rank last then last :: settle code earlier
    else code :: last :: earlier

def inOrder (codes : List Nat) : List Nat :=
  (codes.foldl (fun settled code => settle code settled) []).reverse

def laterJoins : List Makeup := [
  ⟨0x1b06, [0x1b05, 0x1b35], true⟩, ⟨0x1b08, [0x1b07, 0x1b35], true⟩,
  ⟨0x1b0a, [0x1b09, 0x1b35], true⟩, ⟨0x1b0c, [0x1b0b, 0x1b35], true⟩,
  ⟨0x1b0e, [0x1b0d, 0x1b35], true⟩, ⟨0x1b12, [0x1b11, 0x1b35], true⟩,
  ⟨0x1b3b, [0x1b3a, 0x1b35], true⟩, ⟨0x1b3d, [0x1b3c, 0x1b35], true⟩,
  ⟨0x1b40, [0x1b3e, 0x1b35], true⟩, ⟨0x1b41, [0x1b3f, 0x1b35], true⟩,
  ⟨0x1b43, [0x1b42, 0x1b35], true⟩, ⟨0x1109a, [0x11099, 0x110ba], true⟩,
  ⟨0x1109c, [0x1109b, 0x110ba], true⟩, ⟨0x110ab, [0x110a5, 0x110ba], true⟩,
  ⟨0x1112e, [0x11131, 0x11127], true⟩, ⟨0x1112f, [0x11132, 0x11127], true⟩,
  ⟨0x1134b, [0x11347, 0x1133e], true⟩, ⟨0x1134c, [0x11347, 0x11357], true⟩,
  ⟨0x114bb, [0x114b9, 0x114ba], true⟩, ⟨0x114bc, [0x114b9, 0x114b0], true⟩,
  ⟨0x114be, [0x114b9, 0x114bd], true⟩, ⟨0x115ba, [0x115b8, 0x115af], true⟩,
  ⟨0x115bb, [0x115b9, 0x115af], true⟩, ⟨0x11938, [0x11935, 0x11930], true⟩]

def joined? (a b : Nat) : Option Nat :=
  syllableOf? a b
    <|> ((makeups ++ laterJoins).find? fun m => m.rejoins && m.parts == [a, b]).map Makeup.code

/-- Letters while they are being joined: those that are finished, the letter that marks can still join, and
the marks behind it that did not. The lists have their last element first. -/
structure Joining where
  finished : List Nat
  base : Option Nat
  behind : List Nat

namespace Joining

def all (j : Joining) : List Nat :=
  j.behind ++ j.base.toList ++ j.finished

def isBlocked (j : Joining) (code : Nat) : Bool :=
  j.behind.head?.any fun mark => rank code ≤ rank mark

def next (j : Joining) (code : Nat) : Joining :=
  match j.base.bind fun base => if j.isBlocked code then none else joined? base code with
  | some whole => { j with base := some whole }
  | none =>
    if rank code = 0 then ⟨j.all, some code, []⟩
    else match j.base with
      | some _ => { j with behind := code :: j.behind }
      | none => { j with finished := code :: j.finished }

end Joining

def rejoined (codes : List Nat) : List Nat :=
  (codes.foldl Joining.next ⟨[], none, []⟩).all.reverse

def normal (text : Text) : Text :=
  (rejoined (inOrder (text.flatMap fun c => takenApart makeupDepth c.code))).map Letter.ofCode

end QueryHints.Text
