import QueryHints.Event
import QueryHints.Files.Folder
import QueryHints.Json.Reader
import QueryHints.Schema.Decode
import QueryHints.Text.Utf8
import QueryHints.Token.Basic

namespace QueryHints.Files

inductive LoadFault
  | missing (path : String)
  | directory (path : String)
  | encoding (fault : Text.Utf8.Fault)
  | notJson (path reason : String)
  | longNumeral (digits : Nat)
  | tooDeep (nest : Json.Nest)
  | index (fault : IndexFault)
  | token (fault : TokenFault)
  deriving Repr, DecidableEq

/-- The message about octets that are no text. A single one is named, several by their places. -/
def encodingMessage (f : Text.Utf8.Fault) : String :=
  let place :=
    if f.count = 1 then
      "byte 0x" ++ String.ofList (Text.hexDigits 2 f.first.toNat) ++ " in position " ++ toString f.position
    else
      "bytes in position " ++ toString f.position ++ "-" ++ toString (f.position + f.count - 1)
  "'utf-8' codec can't decode " ++ place ++ ": " ++ f.reason.message

def LoadFault.message : LoadFault → String
  | .missing path => path
  | .directory path => "[Errno 21] Is a directory: " ++ (Text.of path).quoted
  | .encoding fault => encodingMessage fault
  | .notJson path reason => path ++ ": invalid JSON (" ++ reason ++ ")"
  | .longNumeral digits => Numeral.tooLongMessage digits
  | .tooDeep nest => nest.tooDeepMessage
  | .index fault => fault.message
  | .token fault => fault.message

def LoadFault.fault : LoadFault → FaultClass
  | .missing _ => .missing
  | .directory _ => .directory
  | .encoding _ => .encoding
  | .notJson .. | .longNumeral _ => .value
  | .tooDeep _ => .depth
  | .index fault => fault.fault
  | .token fault => fault.fault

def isReportable : FaultClass → Bool
  | .kind | .range | .depth => false
  | _ => true

def parse (limits : Limits) (path : String) (octets : List UInt8) : Except LoadFault Json :=
  match Text.Utf8.decode octets with
  | .error fault => .error (.encoding fault)
  | .ok cs =>
    let text := Text.Utf8.unifyLines cs
    match Json.readAll limits.nesting text with
    | .ok v => .ok v
    | .error (.longNumeral digits) => .error (.longNumeral digits)
    | .error (.tooDeep nest) => .error (.tooDeep nest)
    | .error stop => .error (.notJson path (stop.message text))

def readJson (limits : Limits) (files : Lookup) (path : String) : Except LoadFault Json :=
  match files path with
  | .missing => .error (.missing path)
  | .directory => .error (.directory path)
  | .file octets => parse limits path octets

def loadIndex (limits : Limits) (files : Lookup) (path : String) : Except LoadFault Index :=
  match readJson limits files path with
  | .error fault => .error fault
  | .ok v => (Index.ofJson limits v).mapError .index

def loadEvents (path : String) (index : Index) : List Event :=
  (if index.isWellFormed then [] else [.rulesUnusable path])
    ++ [.indexLoaded path index.idents.length]

def withCommas (n : Nat) : String :=
  let rec group : List Char → List Char
    | a :: b :: c :: d :: rest => a :: b :: c :: ',' :: group (d :: rest)
    | few => few
  String.ofList (group (Nat.toDigits 10 n).reverse).reverse

def loadLine (path : String) (index : Index) : String :=
  "[index] " ++ path ++ " input-sets=" ++ withCommas index.ruleCount

def loadToken (limits : Limits) (files : Lookup) (path : String) : Except LoadFault Token :=
  match readJson limits files path with
  | .error fault => .error fault
  | .ok v => (Token.ofJson limits v).mapError .token

end QueryHints.Files
