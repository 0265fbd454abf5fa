import QueryHints.Json.Display
import QueryHints.Json.Whole
import QueryHints.Limits
import QueryHints.Token.Frame

namespace QueryHints

inductive TokenKind
  | atom
  | composite
  | other
  deriving Repr, DecidableEq

def TokenKind.name : TokenKind → String
  | .atom => "atom"
  | .composite => "atom-composite"
  | .other => "other"

def TokenKind.ofJson : Json → TokenKind
  | .text s => if s = "atom" then .atom else if s = "atom-composite" then .composite else .other
  | _ => .other

structure Token where
  text : Text
  start : Int
  stop : Int
  kind : TokenKind
  frames : List Frame

inductive TokenFault
  | notObject
  | noLength (kind : Kind)
  | notAddable (kind : Kind)
  | whole (fault : Json.WholeFault)
  | frameNotObject (kind : Kind)
  | unshown (fault : Json.ShowFault)
  | tooDeep
  deriving Repr, DecidableEq

def TokenFault.message : TokenFault → String
  | .notObject => "token must be an object"
  | .noLength kind => "object of type '" ++ kind.name ++ "' has no len()"
  | .notAddable .text => "can only concatenate str (not \"int\") to str"
  | .notAddable .list => "can only concatenate list (not \"int\") to list"
  | .notAddable kind => "unsupported operand type(s) for +: '" ++ kind.name ++ "' and 'int'"
  | .whole fault => fault.message
  | .frameNotObject kind => "mode state must be an object, got " ++ kind.name
  | .unshown fault => fault.message
  | .tooDeep => "maximum recursion depth exceeded in comparison"

def TokenFault.fault : TokenFault → FaultClass
  | .notObject | .frameNotObject _ => .value
  | .noLength _ | .notAddable _ => .kind
  | .whole fault => fault.fault
  | .unshown fault => fault.fault
  | .tooDeep => .depth

/-- A value that names something is shown first. That a number in it is too long makes no difference, since
it names nothing known then. -/
def nameFault? (room : Nat) (v : Json) : Option TokenFault :=
  ((v.showFault? room).filter (·.fault = .depth)).map .unshown

namespace Frame

open Json (Fields)

mutual

def misfit? : Json → Option Kind
  | .null => none
  | .object fields => misfitBehind? fields
  | v => some v.kind

def misfitBehind? : List (Text × Json) → Option Kind
  | [] => none
  | (name, v) :: rest => if name = "previous" then misfit? v else misfitBehind? rest

end

def readIndent (fields : Fields) : Except TokenFault Int :=
  let v := Fields.get fields "indent"
  if v.isVoid then .ok 0 else v.whole.mapError .whole

def readMode (room : Nat) (v : Json) : Except TokenFault (Option Mode) :=
  if v.isNull then .ok none
  else match nameFault? room v with
    | some fault => .error fault
    | none => .ok (Mode.ofJson? v)

/-- The key that a value stands for. An object is a chain of frames, given here as it reads; no chain is read
without a room. -/
def keyOf (rooms : List Nat) (v : Json) (chain : Except TokenFault (List Frame)) :
    Except TokenFault FrameKey :=
  match v with
  | .null => .ok .absent
  | .text s => .ok (.text s)
  | .object fields =>
    if rooms.isEmpty then .error .tooDeep
    else match misfit? (.object fields), chain with
    | some kind, _ => .error (.frameNotObject kind)
    | none, .error fault => .error fault
    | none, .ok (inner :: outer) => .ok (.frame inner outer)
    | none, .ok [] => .ok .absent
  | v => .ok (.value v)

mutual

/-- Reads a chain without misfits, from the outermost frame inwards; in each frame the key comes before the
mode, and the mode before the indent. The first room is for the modes, the others are for the keys. -/
def readChain (rooms : List Nat) : Json → Except TokenFault (List Frame)
  | .object fields => do
    let outer ← readOuter rooms fields
    let key ← readKey rooms.tail fields
    let mode ← readMode (rooms.headD 0) (Fields.get fields "mode")
    let indent ← readIndent fields
    return .mk mode key indent :: outer
  | _ => .ok []

def readOuter (rooms : List Nat) : List (Text × Json) → Except TokenFault (List Frame)
  | [] => .ok []
  | (name, v) :: rest => if name = "previous" then readChain rooms v else readOuter rooms rest

def readKey (rooms : List Nat) : List (Text × Json) → Except TokenFault FrameKey
  | [] => .ok .absent
  | (name, v) :: rest => if name = "key" then keyOf rooms v (readChain rooms v) else readKey rooms rest

end

def ofJson (rooms : List Nat) (v : Json) : Except TokenFault (List Frame) :=
  if rooms.isEmpty then .error .tooDeep
  else match misfit? v with
    | some kind => .error (.frameNotObject kind)
    | none => readChain rooms v

end Frame

namespace Token

open Json (Fields)

def lengthOf (v : Json) : Except TokenFault Nat :=
  if v.isVoid then .ok 0
  else match v with
    | .text s => .ok s.length
    | .list items => .ok items.length
    | .object fields => .ok fields.length
    | v => .error (.noLength v.kind)

def offsetBy (start : Json) (length : Nat) : Except TokenFault Json :=
  match start with
  | .int n => .ok (.int (n + length))
  | .bool b => .ok (.int ((if b then 1 else 0) + length))
  | .real x => .ok (.real (x.add (Binary64.ofInt length)))
  | v => .error (.notAddable v.kind)

def readText (limits : Limits) (v : Json) : Except TokenFault Text :=
  if v.isVoid then .ok [] else (v.show? limits.texts).mapError .unshown

def readKind (limits : Limits) (v : Json) : Except TokenFault TokenKind :=
  match nameFault? limits.texts v with
  | some fault => .error fault
  | none => .ok (.ofJson v)

def ofFields (limits : Limits) (fields : Fields) : Except TokenFault Token := do
  let text := (Fields.either? fields "text" "string").getD (.text [])
  let start := (Fields.either? fields "start_offset" "start").getD (.int 0)
  let computed ← offsetBy start (← lengthOf text)
  let stop := (Fields.either? fields "end_offset" "end").getD computed
  return {
    text := ← readText limits text
    start := ← start.whole.mapError .whole
    stop := ← stop.whole.mapError .whole
    kind := ← readKind limits ((Fields.either? fields "kind" "type").getD .null)
    frames := ← Frame.ofJson limits.keys (Fields.get fields "state") }

def ofJson (limits : Limits) : Json → Except TokenFault Token
  | .object fields => ofFields limits fields
  | _ => .error .notObject

end Token

end QueryHints
