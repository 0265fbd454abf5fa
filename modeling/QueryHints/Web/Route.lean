import QueryHints.Service

namespace QueryHints.Web

open QueryHints.Service (Found Route)

inductive Endpoint
  | route (route : Route)
  | file
  deriving Repr, DecidableEq

namespace Endpoint

def methods : Endpoint → List String
  | route .complete => ["POST", "OPTIONS"]
  | route .index => ["PUT", "OPTIONS"]
  | route .health | file => ["GET", "HEAD", "OPTIONS"]

def allows (endpoint : Endpoint) (method : String) : Bool :=
  endpoint.methods.contains method

def isFileName : List Char → Bool
  | [] => false
  | c :: rest => c != '/' && !rest.contains '\n'

def fileFolder : List Char := "/static/".toList

def at? (path : List Char) : Option Endpoint :=
  if path = "/api/complete".toList then some (route .complete)
  else if path = "/api/index".toList then some (route .index)
  else if path = "/api/health".toList then some (route .health)
  else if fileFolder.isPrefixOf path && isFileName (path.drop fileFolder.length) then some file
  else none

def found (method : String) : Endpoint → Found
  | route r =>
    if method = "OPTIONS" || method = "HEAD" then .other 200 else .route r
  | file => if method = "OPTIONS" then .other 200 else .other 404

end Endpoint

def mergeSlashes : List Char → List Char
  | '/' :: '/' :: rest => '/' :: mergeSlashes rest
  | c :: rest => c :: mergeSlashes rest
  | [] => []

/-- Looks for a route. No route has a socket, so a request for one finds only what other methods there would
be, or that there is none. -/
def find (path : List Char) (method : String) (isSocket : Bool) : Found :=
  let direct := Endpoint.at? path
  let merged := Endpoint.at? (mergeSlashes path)
  let refuses (endpoint : Option Endpoint) : Bool := endpoint.any fun e => !e.allows method
  match direct.filter (·.allows method), merged.filter (·.allows method) with
  | none, none => .other (if refuses direct || refuses merged then 405 else 404)
  | some endpoint, _ => if isSocket then .other 400 else endpoint.found method
  | none, some _ => .other (if !isSocket then 308 else if refuses direct then 405 else 400)

def wideUppers : List (Char × String) :=
  [('ß', "SS"), ('ı', "I"), ('ſ', "S"), ('ﬀ', "FF"), ('ﬁ', "FI"), ('ﬂ', "FL"), ('ﬃ', "FFI"),
    ('ﬄ', "FFL"), ('ﬅ', "ST"), ('ﬆ', "ST")]

def upperChar (c : Char) : List Char :=
  match wideUppers.lookup c with
  | some upper => upper.toList
  | none => [c.toUpper]

/-- The name of a method, in which case does not count. Names of known methods are ASCII, so other
upper-case forms make no difference. -/
def methodName (method : String) : String :=
  String.ofList (method.toList.flatMap upperChar)

end QueryHints.Web
