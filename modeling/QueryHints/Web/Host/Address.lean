import QueryHints.Text.Pieces
import QueryHints.Text.Quoted

namespace QueryHints.Web.Host

open QueryHints.Text (pieces)

inductive AddressFault
  | future
  | unknown (host : String)
  | older
  deriving Repr, DecidableEq

def AddressFault.message : AddressFault → String
  | .future => "IPvFuture address is invalid"
  | .unknown host => (Text.of host).quoted ++ " does not appear to be an IPv4 or IPv6 address"
  | .older => "An IPv4 address cannot be in brackets"

def before (c : Char) (cs : List Char) : List Char :=
  cs.takeWhile (· != c)

def behind (c : Char) (cs : List Char) : List Char :=
  (cs.dropWhile (· != c)).drop 1

def isDigit (c : Char) : Bool := '0' ≤ c && c ≤ '9'

def isHexDigit (c : Char) : Bool :=
  isDigit c || ('a' ≤ c && c ≤ 'f') || ('A' ≤ c && c ≤ 'F')

def decimalValue (digits : List Char) : Nat :=
  digits.foldl (fun value c => 10 * value + (c.toNat - 48)) 0

namespace Address

def isOctet (cs : List Char) : Bool :=
  !cs.isEmpty && cs.all isDigit && cs.length ≤ 3 && (cs = ['0'] || cs.head? != some '0')
    && decimalValue cs ≤ 255

def isV4 (cs : List Char) : Bool :=
  let octets := pieces '.' cs
  octets.length = 4 && octets.all isOctet

def isGroup (cs : List Char) : Bool :=
  !cs.isEmpty && cs.length ≤ 4 && cs.all isHexDigit

def groups (cs : List Char) : List (List Char) :=
  let all := pieces ':' cs
  match all.getLast? with
  | some last =>
    if last.contains '.' && isV4 last then all.dropLast ++ [['0'], ['0']] else all
  | none => all

/-- Groups where some were left out between `high` and `low`. An empty group may stand at either end only
if nothing else stands on that side. -/
def isShortened (high low : List (List Char)) : Bool :=
  let front := if high.head? = some [] then high.drop 1 else high
  let back := if low.getLast? = some [] then low.dropLast else low
  (high.head? != some [] || front.isEmpty) && (low.getLast? != some [] || back.isEmpty)
    && front.length + back.length ≤ 7 && front.all isGroup && back.all isGroup

def isV6 (cs : List Char) : Bool :=
  let zone := behind '%' cs
  let all := groups (before '%' cs)
  let inner := (all.drop 1).dropLast
  let gap := (inner.takeWhile fun group => !group.isEmpty).length + 1
  (!cs.contains '%' || (!zone.isEmpty && !zone.contains '%'))
    && 3 ≤ (pieces ':' (before '%' cs)).length && all.length ≤ 9
    && (if inner.contains [] then
        ((inner.filter List.isEmpty).length = 1) && isShortened (all.take gap) (all.drop (gap + 1))
      else all.length = 8 && all.all isGroup)

def isFuture (cs : List Char) : Bool :=
  match cs with
  | 'v' :: rest =>
    let version := rest.takeWhile isHexDigit
    match rest.dropWhile isHexDigit with
    | '.' :: body => !version.isEmpty && !body.isEmpty && !body.contains '\n'
    | _ => false
  | _ => false

def check (cs : List Char) : Except AddressFault Unit :=
  if cs.head? = some 'v' then (if isFuture cs then .ok () else .error .future)
  else if isV4 cs then .error .older
  else if isV6 cs then .ok ()
  else .error (.unknown (String.ofList cs))

end Address

end QueryHints.Web.Host
