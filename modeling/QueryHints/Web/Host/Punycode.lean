import QueryHints.Text.Letter

/-!
Any letters written with ASCII letters alone. The ASCII letters of the text come first, behind them a hyphen
and then the others, in the order of their codes: each as the distance from the one before it, counted in
steps of one place in the text, and from the end of the text to its beginning with the next code. Distances
are numbers of variable length, whose digits weigh less the smaller the distances have been so far.
-/

namespace QueryHints.Web.Host.Punycode

inductive Fault
  | cutShort
  | noDigit (c : Letter)
  | beyond (code : Nat)
  deriving Repr, DecidableEq

def hexText (n : Nat) : String :=
  String.ofList (Nat.toDigits 16 n)

def Fault.message : Fault → String
  | .cutShort => "incomplete punicode string"
  | .noDigit c => "Invalid extended code point '" ++ Text.toString [c] ++ "'"
  | .beyond code => "Invalid character U+" ++ hexText code

def firstCode : Nat := 0x80

def firstBias : Nat := 72

/-- A digit below its threshold is the last one of a number. -/
def threshold (position bias : Nat) : Nat :=
  min 26 (max 1 (36 * (position + 1) - bias))

theorem one_le_threshold (position bias : Nat) : 1 ≤ threshold position bias := by
  unfold threshold
  omega

def shrunk (distance : Nat) : Nat × Nat :=
  if 455 < distance then
    let (steps, left) := shrunk (distance / 35)
    (steps + 36, left)
  else (0, distance)
termination_by distance
decreasing_by exact Nat.div_lt_self (by omega) (by omega)

def adapted (distance : Nat) (isFirst : Bool) (letters : Nat) : Nat :=
  let scaled := if isFirst then distance / 700 else distance / 2
  let (steps, left) := shrunk (scaled + scaled / letters)
  steps + 36 * left / (left + 38)

def digitLetter (digit : Nat) : Letter :=
  Letter.ofCode (if digit < 26 then 0x61 + digit else 0x30 + (digit - 26))

def digitOf? (c : Letter) : Option Nat :=
  if 0x61 ≤ c.code && c.code ≤ 0x7A then some (c.code - 0x61)
  else if 0x41 ≤ c.code && c.code ≤ 0x5A then some (c.code - 0x41)
  else if 0x30 ≤ c.code && c.code ≤ 0x39 then some (c.code - 0x30 + 26)
  else none

def digits (bias position n : Nat) : Text :=
  let t := threshold position bias
  if n < t then [digitLetter n]
  else digitLetter (t + (n - t) % (36 - t)) :: digits bias (position + 1) ((n - t) / (36 - t))
termination_by n
decreasing_by
  have lower := one_le_threshold position bias
  have quotient := Nat.div_le_self (n - threshold position bias) (36 - threshold position bias)
  omega

/-- Letters while they are being written: the digits so far, the distance from the last letter, the bias
and how many letters are in place. -/
structure Writing where
  written : Text
  distance : Nat
  bias : Nat
  letters : Nat

namespace Writing

def pass (basic code : Nat) (w : Writing) (c : Letter) : Writing :=
  if c.code < code then { w with distance := w.distance + 1 }
  else if c.code = code then
    ⟨w.written ++ digits w.bias 0 w.distance, 0,
      adapted w.distance (w.letters == basic) (w.letters + 1), w.letters + 1⟩
  else w

def codes (text : Text) (basic turn : Nat) (w : Writing) : List Nat → Writing
  | [] => w
  | code :: rest =>
    let moved := { w with distance := w.distance + (code - turn) * (w.letters + 1) }
    let passed := text.foldl (pass basic code) moved
    codes text basic (code + 1) { passed with distance := passed.distance + 1 } rest

end Writing

def isBasic (c : Letter) : Bool :=
  c.code < firstCode

def encode (text : Text) : Text :=
  let basic := text.filter isBasic
  let others := ((text.filter fun c => !isBasic c).map Letter.code).eraseDups.mergeSort
  let writing := Writing.codes text basic.length firstCode ⟨[], 0, firstBias, basic.length⟩ others
  basic ++ (if basic.isEmpty then [] else [Letter.ofChar '-']) ++ writing.written

def readNumber (bias position value weight : Nat) : Text → Except Fault (Nat × Text)
  | [] => .error .cutShort
  | c :: rest =>
    match digitOf? c with
    | none => .error (.noDigit c)
    | some digit =>
      let t := threshold position bias
      if digit < t then .ok (value + digit * weight, rest)
      else readNumber bias (position + 1) (value + digit * weight) (weight * (36 - t)) rest

/-- Letters while they are being read: those in place, the code and the place of the next one at the
least, and the bias. -/
structure Reading where
  letters : Text
  code : Nat
  place : Nat
  bias : Nat
  isFirst : Bool

def Reading.put (r : Reading) (distance : Nat) : Except Fault Reading :=
  let places := r.letters.length + 1
  let code := r.code + (r.place + distance) / places
  let place := (r.place + distance) % places
  if 0x10FFFF < code then .error (.beyond code)
  else .ok ⟨r.letters.take place ++ Letter.ofCode code :: r.letters.drop place, code, place + 1,
    adapted distance r.isFirst places, false⟩

/-- Reads as many letters as there are numbers. There are no more of these than digits. -/
def Reading.run : (fuel : Nat) → Reading → Text → Except Fault Text
  | _, r, [] => .ok r.letters
  | 0, r, _ => .ok r.letters
  | fuel + 1, r, c :: rest =>
    match readNumber r.bias 0 0 1 (c :: rest) with
    | .error fault => .error fault
    | .ok (distance, left) =>
      match r.put distance with
      | .error fault => .error fault
      | .ok next => next.run fuel left

def splitLast (cs : Text) : Text × Text :=
  let behind := (cs.reverse.takeWhile (· != Letter.ofChar '-')).reverse
  (cs.take (cs.length - behind.length - 1), behind)

def decode (cs : Text) : Except Fault Text :=
  let (basic, others) := splitLast cs
  Reading.run others.length ⟨basic, firstCode, 0, firstBias, true⟩ others

end QueryHints.Web.Host.Punycode
