import QueryHints.Json.Reader
import QueryHints.Text.Encoding
import QueryHints.Web.Route
import QueryHints.Web.Target

namespace QueryHints.Web

open QueryHints.Service (Body Request)

inductive RequestFault
  | target (fault : Host.AuthorityFault)
  | contentType
  deriving Repr, DecidableEq

def RequestFault.message : RequestFault → String
  | .target fault => fault.message
  | .contentType => "Header values must not contain newline characters."

def RequestFault.fault : RequestFault → FaultClass
  | .target fault => fault.fault
  | .contentType => .value

def announcesJson (contentType : String) : Bool :=
  let blank (c : Char) : Bool := Text.isBlank c
  let trimmed := (contentType.toList.takeWhile (· != ';')).dropWhile blank
  let name := ((trimmed.reverse.dropWhile blank).reverse).map Char.toLower
  name = "application/json".toList
    || ("application/".toList.isPrefixOf name && "+json".toList.isSuffixOf name)

def bodyOf (limits : Limits) (contentType : String) (octets : List UInt8) : Body :=
  if announcesJson contentType then
    match Text.decode? octets with
    | none => .absent
    | some text =>
      match Json.readAll limits.nesting text with
      | .ok v => .json v
      | .error (.tooDeep _) => .tooDeep
      | .error _ => .absent
  else .absent

/-- The request for a target. Its header is made before the host is looked at once more, and what it finds
depends on a host that can be found itself. -/
def request (method target : String) (header : Except RequestFault Unit) (body : Body) :
    Except RequestFault Request := do
  let destination ← (Destination.ofTarget target.toList).mapError .target
  header
  destination.checkShown.mapError .target
  let method := methodName method
  return {
    method
    path := String.ofList destination.path
    found := if destination.authority.isFound then find destination.path method destination.isSocket
      else .other 400
    body }

def requestTo (method target : String) (body : Body) : Except RequestFault Request :=
  request method target (.ok ()) body

def checkContentType (contentType : String) : Except RequestFault Unit :=
  if contentType.toList.any fun c => c = '\r' || c = '\n' then .error .contentType else .ok ()

def requestSending (limits : Limits) (method target contentType : String) (octets : List UInt8) :
    Except RequestFault Request :=
  request method target (checkContentType contentType) (bodyOf limits contentType octets)

end QueryHints.Web
