import QueryHints.Json.Basic
import QueryHints.Number.Numeral
import QueryHints.Text.Surrogate

namespace QueryHints.Json

inductive Complaint
  | value
  | propertyName
  | colon
  | comma
  | extra
  | unterminated
  | control
  | escape
  | unicodeEscape
  | byteOrderMark
  deriving Repr, DecidableEq

def Complaint.message : Complaint → String
  | .value => "Expecting value"
  | .propertyName => "Expecting property name enclosed in double quotes"
  | .colon => "Expecting ':' delimiter"
  | .comma => "Expecting ',' delimiter"
  | .extra => "Extra data"
  | .unterminated => "Unterminated string starting at"
  | .control => "Invalid control character at"
  | .escape => "Invalid \\escape"
  | .unicodeEscape => "Invalid \\uXXXX escape"
  | .byteOrderMark => "Unexpected UTF-8 BOM (decode using utf-8-sig)"

inductive Nest
  | list
  | object
  deriving Repr, DecidableEq

def Nest.tooDeepMessage : Nest → String
  | .list => "maximum recursion depth exceeded while decoding a JSON array from a unicode string"
  | .object => "maximum recursion depth exceeded while decoding a JSON object from a unicode string"

/-- Why reading stopped: a complaint about the remaining text, a number with too many digits, or a
collection that is nested too deep. -/
inductive Stop
  | refused (complaint : Complaint) (remaining : Text)
  | longNumeral (digits : Nat)
  | tooDeep (nest : Nest)
  deriving Repr, DecidableEq

abbrev Tail (cs : Text) := { rest : Text // rest.length < cs.length }

def Tail.behind (count : Nat) (c : Letter) (rest : Text) : Tail (c :: rest) :=
  ⟨rest.drop count, by rw [List.length_drop, List.length_cons]; omega⟩

def isSpace (c : Letter) : Bool :=
  c = ' ' || c = '\t' || c = '\n' || c = '\r'

def skipSpace (cs : Text) : Text :=
  cs.dropWhile isSpace

theorem length_skipSpace_le (cs : Text) : (skipSpace cs).length ≤ cs.length :=
  (List.dropWhile_sublist isSpace).length_le

def hexValue? (c : Letter) : Option Nat :=
  if '0' ≤ c && c ≤ '9' then some (c.code - 48)
  else if 'a' ≤ c && c ≤ 'f' then some (c.code - 87)
  else if 'A' ≤ c && c ≤ 'F' then some (c.code - 55)
  else none

def codeUnit? : Text → Option Nat
  | a :: b :: c :: d :: _ :: _ => do
    let a ← hexValue? a
    let b ← hexValue? b
    let c ← hexValue? c
    let d ← hexValue? d
    return ((a * 16 + b) * 16 + c) * 16 + d
  | _ => none

def simpleEscapes : List (Letter × Letter) :=
  [('"', '"'), ('\\', '\\'), ('/', '/'), ('b', Char.ofNat 8), ('f', Char.ofNat 12), ('n', '\n'),
    ('r', '\r'), ('t', '\t')]

/-- Reads an escape from the text after its backslash. `opening` is the text from the opening quote. Two
escapes that write the halves of a surrogate pair are one letter. -/
def readEscape (opening cs : Text) : Except Stop (Letter × Tail cs) :=
  match cs with
  | [] => .error (.refused .unterminated opening)
  | c :: rest =>
    if c = 'u' then
      match codeUnit? rest with
      | none => .error (.refused .unicodeEscape (c :: rest))
      | some u =>
        let single := (.ofCode u, Tail.behind 4 c rest)
        match rest.drop 4 with
        | a :: b :: more =>
          if Text.isHigh u && a = '\\' && b = 'u' && !(more.drop 4).isEmpty then
            match codeUnit? more with
            | none => .error (.refused .unicodeEscape (b :: more))
            | some v =>
              if Text.isLow v then
                .ok (.ofCode (Text.paired u v), Tail.behind 10 c rest)
              else .ok single
          else .ok single
        | _ => .ok single
    else
      match simpleEscapes.lookup c with
      | some d => .ok (d, Tail.behind 0 c rest)
      | none => .error (.refused .escape ('\\' :: c :: rest))

/-- Reads the rest of a text from behind its opening quote. `done` holds the letters read so far, last one
first. -/
def readText (opening : Text) (done cs : Text) : Except Stop (Text × Tail cs) :=
  match cs with
  | [] => .error (.refused .unterminated opening)
  | c :: rest =>
    if c = '"' then .ok (done.reverse, ⟨rest, by simp⟩)
    else if c = '\\' then
      match readEscape opening rest with
      | .error stop => .error stop
      | .ok (d, ⟨more, h⟩) =>
        match readText opening (d :: done) more with
        | .error stop => .error stop
        | .ok (s, ⟨left, k⟩) => .ok (s, ⟨left, by simp; omega⟩)
    else if c.code ≤ 0x1f then .error (.refused .control (c :: rest))
    else match readText opening (c :: done) rest with
      | .error stop => .error stop
      | .ok (s, ⟨left, k⟩) => .ok (s, ⟨left, by simp; omega⟩)
termination_by cs.length

def isDigit (c : Letter) : Bool := '0' ≤ c && c ≤ '9'

def digits (cs : Text) : Text × Text :=
  (cs.takeWhile isDigit, cs.dropWhile isDigit)

def wholePart : Text → Text × Text
  | [] => ([], [])
  | c :: rest => if c = '0' then ([c], rest) else digits (c :: rest)

def fractionPart : Text → Text × Text
  | [] => ([], [])
  | c :: rest =>
    if c = '.' && !(digits rest).1.isEmpty then digits rest else ([], c :: rest)

def exponentPart (cs : Text) : Option Int × Text :=
  match cs with
  | mark :: rest =>
    if mark = 'e' || mark = 'E' then
      let (negative, body) := Numeral.signed rest
      let (written, left) := digits body
      if written.isEmpty then (none, cs)
      else
        let value := Int.ofNat (Numeral.positional (written.map fun c => c.code - 48))
        (some (if negative then -value else value), left)
    else (none, cs)
  | [] => (none, [])

/-- The number with given parts. Without a fraction and an exponent it is a whole number. -/
def numberOf (negative : Bool) (whole fraction : Text) (exponent : Option Int) :
    Except Stop Json :=
  let value (written : Text) := Numeral.positional (written.map fun c => c.code - 48)
  match fraction, exponent with
  | [], none =>
    if Numeral.digitLimit < whole.length then .error (.longNumeral whole.length)
    else
      let n := Int.ofNat (value whole)
      .ok (.int (if negative then -n else n))
  | _, _ =>
    .ok (.real (.ofDecimal negative (value (whole ++ fraction))
      (exponent.getD 0 - Int.ofNat fraction.length)))

def after? (word cs : Text) : Option Text :=
  if word.isPrefixOf cs then some (cs.drop word.length) else none

def wordValues : List (Text × Json) :=
  [("null", .null), ("true", .bool true), ("false", .bool false), ("NaN", .real .nan),
    ("Infinity", .real (.infinite false)), ("-Infinity", .real (.infinite true))]

def minusSign : Text → Bool × Text
  | [] => (false, [])
  | c :: rest => if c = '-' then (true, rest) else (false, c :: rest)

def readPlain (cs : Text) : Except Stop (Json × Text) :=
  match wordValues.findSome? fun (word, v) => (after? word cs).map fun rest => (v, rest) with
  | some found => .ok found
  | none =>
    let (negative, body) := minusSign cs
    let (whole, left) := wholePart body
    if whole.isEmpty then .error (.refused .value cs)
    else
      let (fraction, left) := fractionPart left
      let (exponent, left) := exponentPart left
      (numberOf negative whole fraction exponent).map fun v => (v, left)

def behind? (c : Letter) (cs : Text) : Option (Tail cs) :=
  match cs with
  | [] => none
  | d :: rest => if d = c then some ⟨rest, by simp⟩ else none

mutual

/-- Reads one value. Every collection takes one from the room for those inside it. -/
def readValue (room : Nat) (cs : Text) : Except Stop (Json × Tail cs) :=
  match cs with
  | [] => .error (.refused .value [])
  | c :: rest =>
    have hs := length_skipSpace_le rest
    if c = '"' then
      match readText (c :: rest) [] rest with
      | .error stop => .error stop
      | .ok (s, ⟨left, h⟩) => .ok (.text s, ⟨left, by simp; omega⟩)
    else if c = '[' then
      match room with
      | 0 => .error (.tooDeep .list)
      | room + 1 =>
        match behind? ']' (skipSpace rest) with
        | some ⟨left, h⟩ => .ok (.list [], ⟨left, by simp; omega⟩)
        | none =>
          match readItems room (skipSpace rest) with
          | .error stop => .error stop
          | .ok (items, ⟨left, h⟩) => .ok (.list items, ⟨left, by simp; omega⟩)
    else if c = '\x7b' then
      match room with
      | 0 => .error (.tooDeep .object)
      | room + 1 =>
        match behind? '\x7d' (skipSpace rest) with
        | some ⟨left, h⟩ => .ok (.object [], ⟨left, by simp; omega⟩)
        | none =>
          match readMembers room [] (skipSpace rest) with
          | .error stop => .error stop
          | .ok (fields, ⟨left, h⟩) => .ok (.object fields, ⟨left, by simp; omega⟩)
    else
      match readPlain (c :: rest) with
      | .error stop => .error stop
      | .ok (v, left) =>
        if h : left.length < (c :: rest).length then .ok (v, ⟨left, h⟩)
        else .error (.refused .value (c :: rest))
termination_by 2 * cs.length
decreasing_by all_goals (simp; omega)

def readItems (room : Nat) (cs : Text) : Except Stop (List Json × Tail cs) :=
  match readValue room cs with
  | .error stop => .error stop
  | .ok (v, ⟨rest, h⟩) =>
    have hs := length_skipSpace_le rest
    match behind? ']' (skipSpace rest) with
    | some ⟨left, k⟩ => .ok ([v], ⟨left, by omega⟩)
    | none =>
      match behind? ',' (skipSpace rest) with
      | none => .error (.refused .comma (skipSpace rest))
      | some ⟨more, k⟩ =>
        have hm := length_skipSpace_le more
        match readItems room (skipSpace more) with
        | .error stop => .error stop
        | .ok (items, ⟨left, l⟩) => .ok (v :: items, ⟨left, by omega⟩)
termination_by 2 * cs.length + 1
decreasing_by all_goals omega

def readMembers (room : Nat) (fields : Fields) (cs : Text) : Except Stop (Fields × Tail cs) :=
  match behind? '"' cs with
  | none => .error (.refused .propertyName cs)
  | some ⟨rest, hq⟩ =>
    match readText cs [] rest with
    | .error stop => .error stop
    | .ok (name, ⟨behindName, hn⟩) =>
      have hs := length_skipSpace_le behindName
      match behind? ':' (skipSpace behindName) with
      | none => .error (.refused .colon (skipSpace behindName))
      | some ⟨behindColon, hc⟩ =>
        have hd := length_skipSpace_le behindColon
        match readValue room (skipSpace behindColon) with
        | .error stop => .error stop
        | .ok (v, ⟨behindValue, hv⟩) =>
          have hb := length_skipSpace_le behindValue
          match behind? '\x7d' (skipSpace behindValue) with
          | some ⟨left, hl⟩ => .ok (fields.set name v, ⟨left, by omega⟩)
          | none =>
            match behind? ',' (skipSpace behindValue) with
            | none => .error (.refused .comma (skipSpace behindValue))
            | some ⟨more, hm⟩ =>
              have hk := length_skipSpace_le more
              match readMembers room (fields.set name v) (skipSpace more) with
              | .error stop => .error stop
              | .ok (all, ⟨left, hl⟩) => .ok (all, ⟨left, by omega⟩)
termination_by 2 * cs.length + 1
decreasing_by all_goals omega

end

def isMarked (cs : Text) : Bool :=
  cs.head? = some (Letter.ofChar '\uFEFF')

def readAll (room : Nat) (cs : Text) : Except Stop Json :=
  if isMarked cs then .error (.refused .byteOrderMark cs)
  else
    match readValue room (skipSpace cs) with
    | .error stop => .error stop
    | .ok (v, ⟨rest, _⟩) =>
      match skipSpace rest with
      | [] => .ok v
      | left => .error (.refused .extra left)

def lineAfter (before : Text) : Nat :=
  before.count (Letter.ofChar '\n') + 1

def columnAfter (before : Text) : Nat :=
  (before.reverse.takeWhile fun c => c ≠ Letter.ofChar '\n').length + 1

def Stop.message (whole : Text) : Stop → String
  | .refused complaint remaining =>
    let before := whole.take (whole.length - remaining.length)
    complaint.message ++ ": line " ++ toString (lineAfter before) ++ " column "
      ++ toString (columnAfter before) ++ " (char " ++ toString before.length ++ ")"
  | .longNumeral digits => Numeral.tooLongMessage digits
  | .tooDeep nest => nest.tooDeepMessage

end QueryHints.Json
