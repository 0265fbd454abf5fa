import QueryHints.Fault
import QueryHints.Json.Basic
import QueryHints.Number.Numeral
import QueryHints.Text.Quoted

namespace QueryHints.Json

inductive WholeFault
  | notNumeral (s : Text)
  | longNumeral (digits : Nat)
  | nan
  | infinite
  | unfit (kind : Kind)
  deriving Repr, DecidableEq

def shownLimit : Nat := 200

def WholeFault.message : WholeFault → String
  | .notNumeral s =>
    "invalid literal for int() with base 10: "
      ++ String.ofList (s.quoted.toList.take shownLimit)
  | .longNumeral digits => Numeral.tooLongMessage digits
  | .nan => "cannot convert float NaN to integer"
  | .infinite => "cannot convert float infinity to integer"
  | .unfit kind =>
    "int() argument must be a string, a bytes-like object or a real number, not '" ++ kind.name ++ "'"

def WholeFault.fault : WholeFault → FaultClass
  | .infinite => .range
  | .unfit _ => .kind
  | _ => .value

def wholeOfReal : Binary64 → Except WholeFault Int
  | .nan => .error .nan
  | .infinite _ => .error .infinite
  | x => match x.truncate? with
    | some n => .ok n
    | none => .error .nan

def wholeOfText (s : Text) : Except WholeFault Int :=
  match Numeral.read s with
  | .ok n => .ok n
  | .error .malformed => .error (.notNumeral s)
  | .error (.tooLong digits) => .error (.longNumeral digits)

def whole : Json → Except WholeFault Int
  | int n => .ok n
  | bool b => .ok (if b then 1 else 0)
  | real x => wholeOfReal x
  | text s => wholeOfText s
  | v => .error (.unfit v.kind)

end QueryHints.Json
