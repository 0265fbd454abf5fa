import QueryHints.Fault
import QueryHints.Json.Basic
import QueryHints.Number.Numeral
import QueryHints.Number.Shortest
import QueryHints.Text.Quoted

namespace QueryHints.Json

def realShown (x : Binary64) : String :=
  x.text "nan" "inf"

mutual

def literal : Json → String
  | null => "None"
  | bool b => if b then "True" else "False"
  | int n => toString n
  | real x => realShown x
  | text s => s.quoted
  | list items => "[" ++ String.intercalate ", " (literalItems items) ++ "]"
  | object fields => "\x7b" ++ String.intercalate ", " (literalFields fields) ++ "\x7d"

def literalItems : List Json → List String
  | [] => []
  | v :: rest => v.literal :: literalItems rest

def literalFields : List (Text × Json) → List String
  | [] => []
  | (name, v) :: rest => (name.quoted ++ ": " ++ v.literal) :: literalFields rest

end

def shown : Json → Text
  | text s => s
  | v => v.literal

inductive ShowFault
  | unwritable
  | nested
  | crowded
  deriving Repr, DecidableEq

def ShowFault.message : ShowFault → String
  | .unwritable => Numeral.unwritableMessage
  | .nested => "maximum recursion depth exceeded while getting the repr of an object"
  | .crowded => "maximum recursion depth exceeded while getting the str of an object"

def ShowFault.fault : ShowFault → FaultClass
  | .unwritable => .value
  | .nested | .crowded => .depth

mutual

def literalFault? : (room : Nat) → Json → Option ShowFault
  | 0, _ => some .nested
  | _ + 1, int n => if Numeral.isWritable n then none else some .unwritable
  | room + 1, list items => itemsFault? room items
  | room + 1, object fields => fieldsFault? room fields
  | _ + 1, _ => none

def itemsFault? : (room : Nat) → List Json → Option ShowFault
  | _, [] => none
  | room, v :: rest => (literalFault? room v).or (itemsFault? room rest)

def fieldsFault? : (room : Nat) → List (Text × Json) → Option ShowFault
  | _, [] => none
  | room, (_, v) :: rest => (literalFault? room v).or (fieldsFault? room rest)

end

def showFault? (room : Nat) (v : Json) : Option ShowFault :=
  match room, v with
  | _, text _ => none
  | 0, _ => some .crowded
  | room + 1, v => literalFault? (room + 1) v

def show? (room : Nat) (v : Json) : Except ShowFault Text :=
  match showFault? room v with
  | some fault => .error fault
  | none => .ok v.shown

def showAll? (room : Nat) (items : List Json) : Except ShowFault (List Text) :=
  match items.findSome? (showFault? room) with
  | some fault => .error fault
  | none => .ok (items.map shown)

end QueryHints.Json
