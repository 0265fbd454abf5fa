import QueryHints.Text.Surrogate
import QueryHints.Text.Utf8

namespace QueryHints.Text

inductive Encoding
  | utf8
  | wide16 (bigEndian : Bool)
  | wide32 (bigEndian : Bool)
  deriving Repr, DecidableEq

namespace Encoding

def marked? : List UInt8 → Option (Encoding × List UInt8)
  | 0x00 :: 0x00 :: 0xFE :: 0xFF :: rest => some (wide32 true, rest)
  | 0xFF :: 0xFE :: 0x00 :: 0x00 :: rest => some (wide32 false, rest)
  | 0xFE :: 0xFF :: rest => some (wide16 true, rest)
  | 0xFF :: 0xFE :: rest => some (wide16 false, rest)
  | 0xEF :: 0xBB :: 0xBF :: rest => some (utf8, rest)
  | _ => none

def ofZeros : List UInt8 → Encoding
  | 0 :: b :: _ :: _ :: _ => if b = 0 then wide32 true else wide16 true
  | _ :: 0 :: c :: d :: _ => if c = 0 && d = 0 then wide32 false else wide16 false
  | [0, _] => wide16 true
  | [_, 0] => wide16 false
  | _ => utf8

def units16? (bigEndian : Bool) : List UInt8 → Option (List Nat)
  | [] => some []
  | a :: b :: rest =>
    (units16? bigEndian rest).map ((if bigEndian then a.toNat * 256 + b.toNat
      else b.toNat * 256 + a.toNat) :: ·)
  | _ => none

def joinPairs : List Nat → Text
  | [] => []
  | [unit] => [.ofCode unit]
  | high :: low :: rest =>
    if isHigh high && isLow low then .ofCode (paired high low) :: joinPairs rest
    else .ofCode high :: joinPairs (low :: rest)

def letters32? (bigEndian : Bool) : List UInt8 → Option Text
  | [] => some []
  | a :: b :: c :: d :: rest =>
    let code := if bigEndian then ((a.toNat * 256 + b.toNat) * 256 + c.toNat) * 256 + d.toNat
      else ((d.toNat * 256 + c.toNat) * 256 + b.toNat) * 256 + a.toNat
    if h : code < 0x110000 then (letters32? bigEndian rest).map (⟨code, h⟩ :: ·) else none
  | _ => none

def decode? : Encoding → List UInt8 → Option Text
  | utf8, octets => (Utf8.decode octets).toOption
  | wide16 bigEndian, octets => (units16? bigEndian octets).map joinPairs
  | wide32 bigEndian, octets => letters32? bigEndian octets

end Encoding

def decode? (octets : List UInt8) : Option Text :=
  match Encoding.marked? octets with
  | some (encoding, rest) => encoding.decode? rest
  | none => (Encoding.ofZeros octets).decode? octets

end QueryHints.Text
