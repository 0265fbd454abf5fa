import QueryHints.Fault
import QueryHints.Web.Host.Escape
import QueryHints.Web.Host.Name
import QueryHints.Number.Numeral

namespace QueryHints.Web.Host

inductive AuthorityFault
  | brackets
  | address (fault : AddressFault)
  | disguise (authority : String)
  | sent (fault : LabelFault)
  | shown (fault : LabelFault)
  | notNumber (digits : String)
  | longNumber (digits : Nat)
  | outOfRange
  deriving Repr, DecidableEq

def AuthorityFault.message : AuthorityFault → String
  | .brackets => "Invalid IPv6 URL"
  | .address fault => fault.message
  | .disguise authority =>
    "netloc '" ++ authority ++ "' contains invalid characters under NFKC normalization"
  | .sent fault => "encoding with 'idna' codec failed (UnicodeError: " ++ fault.message ++ ")"
  | .shown (.unfaithful written repeated) => (LabelFault.unfaithful written repeated).message
  | .shown fault => "decoding with 'idna' codec failed (UnicodeError: " ++ fault.message ++ ")"
  | .notNumber digits => "Port could not be cast to integer value as " ++ (Text.of digits).quoted
  | .longNumber digits => Numeral.tooLongMessage digits
  | .outOfRange => "Port out of range 0-65535"

def AuthorityFault.fault : AuthorityFault → FaultClass
  | .sent _ | .shown _ => .label
  | _ => .value

def behindUser (authority : List Char) : List Char :=
  (authority.reverse.takeWhile (· != '@')).reverse

def beforeHost (authority : List Char) : List Char :=
  authority.take (authority.length - (behindUser authority).length - 1)

def checkBrackets (authority : List Char) : Except AuthorityFault Unit :=
  let place := behindUser authority
  let inner := behind '[' place
  let tail := behind ']' inner
  if authority.contains '[' != authority.contains ']' then .error .brackets
  else if !authority.contains '[' then .ok ()
  else if !place.contains '[' then (Address.check (before ':' place)).mapError .address
  else if place.head? != some '[' || !(tail.isEmpty || tail.head? == some ':') then .error .brackets
  else (Address.check (before ']' inner)).mapError .address

/-- Letters that look like one of the characters that divide a URL, or hold one. -/
def disguises : List Nat := [
  0x2047, 0x2048, 0x2049, 0x2100, 0x2101, 0x2105, 0x2106, 0x2a74, 0xfe13, 0xfe16, 0xfe55, 0xfe56,
  0xfe5f, 0xfe6b, 0xff03, 0xff0f, 0xff1a, 0xff1f, 0xff20]

def checkText (authority : List Char) : Except AuthorityFault Unit :=
  match checkBrackets authority with
  | .error fault => .error fault
  | .ok () =>
    if authority.any fun c => disguises.contains c.toNat then
      .error (.disguise (String.ofList authority))
    else .ok ()

/-- The parts of an authority as they are sent. No password and no number are the empty text and zero. -/
structure Authority where
  user : List Char
  password : List Char
  name : List Char
  number : Nat

def readNumber (digits : List Char) : Except AuthorityFault Nat :=
  if digits.isEmpty then .ok 0
  else if !digits.all isDigit then .error (.notNumber (String.ofList digits))
  else if Numeral.digitLimit < digits.length then .error (.longNumber digits.length)
  else if 65535 < decimalValue digits then .error .outOfRange
  else .ok (decimalValue digits)

/-- The small form of a letter in a name. Letters that are folded later stay; only one of them would be in
ASCII letters already, the Kelvin sign. -/
def small (c : Char) : Char :=
  if c = '\u212A' then 'k' else c.toLower

/-- The host's name and the digits behind it. What follows a percent sign in a name keeps its case. -/
def splitPlace (place : List Char) : List Char × List Char :=
  let (name, digits) :=
    if place.contains '[' then
      let inner := behind '[' place
      (before ']' inner, behind ':' (behind ']' inner))
    else (before ':' place, behind ':' place)
  let front := before '%' name
  (front.map small ++ name.drop front.length, digits)

def toLetters (cs : List Char) : Text :=
  cs.map Letter.ofChar

def ofLetters (text : Text) : List Char :=
  text.map Letter.toChar

namespace Authority

def write (user password name : List Char) (number : Nat) : List Char :=
  (if user.isEmpty then []
    else user ++ (if password.isEmpty then [] else ':' :: password) ++ ['@'])
    ++ (if name.contains ':' then '[' :: name ++ [']'] else name)
    ++ (if number = 0 then [] else ':' :: Nat.toDigits 10 number)

def text (a : Authority) : List Char :=
  write a.user a.password a.name a.number

def ofText (authority : List Char) : Except AuthorityFault Authority :=
  let (name, digits) := splitPlace (behindUser authority)
  match sentName (toLetters name) with
  | .error fault => .error (.sent fault)
  | .ok sent =>
    (readNumber digits).map fun number =>
      { user := escape (before ':' (beforeHost authority))
        password := escape (behind ':' (beforeHost authority))
        name := ofLetters sent
        number }

def checkShown (a : Authority) : Except AuthorityFault Unit :=
  match shownName (toLetters a.name) with
  | .error fault => .error (.shown fault)
  | .ok name =>
    checkText (write (resolve a.user) (resolve a.password) (ofLetters name) a.number)

def isFound (a : Authority) : Bool :=
  match checkLengths (Text.piecesAt (· == Letter.ofChar '.') (toLetters (before ':' a.text))) with
  | .ok () => true
  | .error _ => false

end Authority

end QueryHints.Web.Host
