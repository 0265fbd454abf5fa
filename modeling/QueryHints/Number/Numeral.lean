import QueryHints.Text.Blank
import QueryHints.Text.Digit

namespace QueryHints.Numeral

inductive Fault
  | malformed
  | tooLong (digits : Nat)
  deriving Repr, DecidableEq

def digitLimit : Nat := 4300

/-- A blank that may surround a numeral. Of the ASCII controls only the tabulators and line breaks do. -/
def isEdge (c : Letter) : Bool :=
  if c.code < 128 then c = ' ' || (9 ≤ c.code && c.code ≤ 13) else Text.isBlank c

def isGrouped : Text → Bool
  | [] => false
  | [c] => c ≠ '_'
  | c :: d :: rest => c ≠ '_' && (if d = '_' then isGrouped rest else isGrouped (d :: rest))

def positional (digits : List Nat) : Nat :=
  digits.foldl (fun value digit => 10 * value + digit) 0

def signed : Text → Bool × Text
  | [] => (false, [])
  | c :: rest =>
    if c = '-' then (true, rest) else if c = '+' then (false, rest) else (false, c :: rest)

def read (s : Text) : Except Fault Int :=
  let (negative, body) := signed (s.dropWhile isEdge)
  let isBody (c : Letter) : Bool := c = '_' || (Text.digit? c).isSome
  let written := body.takeWhile isBody
  let digits := written.filterMap Text.digit?
  if !isGrouped written then .error .malformed
  else if digitLimit < digits.length then .error (.tooLong digits.length)
  else if !((body.dropWhile isBody).all isEdge) then .error .malformed
  else
    let value := Int.ofNat (positional digits)
    .ok (if negative then -value else value)

def tooLongMessage (digits : Nat) : String :=
  "Exceeds the limit (" ++ toString digitLimit ++ " digits) for integer string conversion: value has "
    ++ toString digits ++ " digits; use sys.set_int_max_str_digits() to increase the limit"

/-- The first number with too many digits. -/
def writeBound : Nat := Nat.pow 10 digitLimit

def isWritable (n : Int) : Bool :=
  n.natAbs < writeBound

def unwritableMessage : String :=
  "Exceeds the limit (" ++ toString digitLimit ++ " digits) for integer string conversion; "
    ++ "use sys.set_int_max_str_digits() to increase the limit"

end QueryHints.Numeral
