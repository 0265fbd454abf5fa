import QueryHints.Number.Binary64
import QueryHints.Text.Letter

namespace QueryHints

inductive Json
  | null
  | bool (b : Bool)
  | int (n : Int)
  | real (x : Binary64)
  | text (s : Text)
  | list (items : List Json)
  | object (fields : List (Text × Json))
  deriving Repr, Inhabited

inductive Kind
  | null
  | bool
  | int
  | real
  | text
  | list
  | object
  deriving Repr, DecidableEq

def Kind.name : Kind → String
  | .null => "NoneType"
  | .bool => "bool"
  | .int => "int"
  | .real => "float"
  | .text => "str"
  | .list => "list"
  | .object => "dict"

namespace Json

def kind : Json → Kind
  | null => .null
  | bool _ => .bool
  | int _ => .int
  | real _ => .real
  | text _ => .text
  | list _ => .list
  | object _ => .object

def isNull : Json → Bool
  | null => true
  | _ => false

/-- A value that stands for "nothing given": null, false, zero, or an empty text or collection. -/
def isVoid : Json → Bool
  | null => true
  | bool b => !b
  | int n => n == 0
  | real x => x.isZero
  | text s => s.isEmpty
  | list items => items.isEmpty
  | object fields => fields.isEmpty

abbrev Fields := List (Text × Json)

def Fields.get? (fields : Fields) (name : Text) : Option Json :=
  fields.lookup name

def Fields.get (fields : Fields) (name : Text) : Json :=
  (fields.get? name).getD null

def Fields.either? (fields : Fields) (name other : Text) : Option Json :=
  fields.get? name <|> fields.get? other

/-- Sets a field: a known name keeps its place and takes the new value. -/
def Fields.set (fields : Fields) (name : Text) (value : Json) : Fields :=
  match fields with
  | [] => [(name, value)]
  | (n, v) :: rest => if n = name then (n, value) :: rest else (n, v) :: Fields.set rest name value

end Json

end QueryHints
