import QueryHints.Web.Host.Address
import QueryHints.Text.Utf8

namespace QueryHints.Web.Host

def isPlain (c : Char) : Bool :=
  c.isAlphanum || "_.-~%!$&'()*+,;=".toList.contains c

def escapeOctet (octet : UInt8) : List Char :=
  '%' :: (Text.hexDigits 2 octet.toNat).map Char.toUpper

def escape (cs : List Char) : List Char :=
  cs.flatMap fun c =>
    if isPlain c then [c] else (String.ofList [c]).toUTF8.toList.flatMap escapeOctet

def hexValue (c : Char) : Nat :=
  if isDigit c then c.toNat - 48
  else if 'a' ≤ c && c ≤ 'f' then c.toNat - 87
  else c.toNat - 55

def frontOctets : (count : Nat) → List Char → List UInt8
  | count + 1, '%' :: a :: b :: rest =>
    if isHexDigit a && isHexDigit b then
      (hexValue a * 16 + hexValue b).toUInt8 :: frontOctets count rest
    else []
  | _, _ => []

def frontLetter? (octets : List UInt8) : Option (Char × Nat) :=
  [1, 2, 3, 4].findSome? fun count =>
    match Text.Utf8.decode (octets.take count) with
    | .ok [c] => if count ≤ octets.length then some (c.toChar, count) else none
    | _ => none

def staysEscaped (c : Char) : Bool :=
  c.toNat ≤ 0x20 || c.toNat = 0x7F || "%:@/?#".toList.contains c

def resolve (cs : List Char) : List Char :=
  match cs with
  | [] => []
  | c :: rest =>
    let octets := frontOctets 4 (c :: rest)
    match octets, frontLetter? octets with
    | [], _ => c :: resolve rest
    | octet :: _, none => escapeOctet octet ++ resolve (rest.drop 2)
    | _, some (letter, count) =>
      if staysEscaped letter then c :: rest.take 2 ++ resolve (rest.drop 2)
      else letter :: resolve (rest.drop (3 * count - 1))
termination_by cs.length
decreasing_by all_goals simp only [List.length_cons, List.length_drop]; omega

end QueryHints.Web.Host
