import QueryHints.Json.Writer

namespace QueryHints

inductive Name
  | text (s : Text)
  | null
  | bool (b : Bool)
  | int (n : Int)
  | real (x : Binary64)
  deriving Repr, DecidableEq

namespace Name

def toJson : Name → Json
  | text s => .text s
  | null => .null
  | bool b => .bool b
  | int n => .int n
  | real x => .real x

def ofJson? : Json → Option Name
  | .text s => some (text s)
  | .null => some null
  | .bool b => some (bool b)
  | .int n => some (int n)
  | .real x => some (real x)
  | .list _ | .object _ => none

def text? : Name → Option Text
  | text s => some s
  | _ => none

def number? : Name → Option Rat
  | bool b => some (if b then 1 else 0)
  | int n => some n
  | real x => x.toRat?
  | _ => none

def same (a b : Name) : Bool :=
  match a.number?, b.number? with
  | some x, some y => x == y
  | none, none => a == b
  | _, _ => false

/-- The order in which a set is listed: texts first, ascending, then the others by their JSON text. -/
def listedBefore (a b : Name) : Bool :=
  match a, b with
  | text s, text t => s ≤ t
  | text _, _ => true
  | _, text _ => false
  | _, _ => a.toJson.compact ≤ b.toJson.compact

end Name

abbrev Names := List Name

namespace Names

def has (names : Names) (name : Name) : Bool :=
  names.any fun known => known.same name

def insert (names : Names) (name : Name) : Names :=
  if names.has name then names else names ++ [name]

def ofList (all : List Name) : Names :=
  all.foldl insert []

def ofTexts (texts : List Text) : Names :=
  ofList (texts.map Name.text)

def without (names ignored : Names) : Names :=
  names.filter fun name => !ignored.has name

def listed (names : Names) : List Name :=
  names.mergeSort Name.listedBefore

end Names

end QueryHints
