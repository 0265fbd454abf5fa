import QueryHints.Fault
import QueryHints.Json.Basic

namespace QueryHints

inductive Mode
  | ident
  | join
  | attrList
  | paramExp
  | other
  deriving Repr, DecidableEq

def Mode.name : Mode → String
  | .ident => "ident"
  | .join => "join"
  | .attrList => "attr-list"
  | .paramExp => "param-exp"
  | .other => "other"

def Mode.ofName (s : Text) : Mode :=
  if s = "ident" then .ident
  else if s = "join" then .join
  else if s = "attr-list" then .attrList
  else if s = "param-exp" then .paramExp
  else .other

/-- The mode that a value names. Null names none, and whatever names no known mode is `other`. -/
def Mode.ofJson? : Json → Option Mode
  | .null => none
  | .text s => some (.ofName s)
  | _ => some .other

mutual

inductive FrameKey
  | absent
  | text (s : Text)
  | value (v : Json)
  | frame (inner : Frame) (outer : List Frame)

inductive Frame
  | mk (mode : Option Mode) (key : FrameKey) (indent : Int)

end

namespace Frame

def mode : Frame → Option Mode
  | mk mode _ _ => mode

def key : Frame → FrameKey
  | mk _ key _ => key

def indent : Frame → Int
  | mk _ _ indent => indent

end Frame

instance : Inhabited Frame := ⟨.mk none .absent 0⟩

def Frame.object (mode : Option Mode) (key : Json) (previous : Json) (indent : Int) : Json :=
  .object [("mode", match mode with | some m => .text m.name | none => .null), ("key", key),
    ("previous", previous), ("indent", .int indent)]

inductive WriteFault
  | tooDeep
  deriving Repr, DecidableEq

def WriteFault.message : WriteFault → String
  | .tooDeep => "maximum recursion depth exceeded"

def WriteFault.fault : WriteFault → FaultClass
  | .tooDeep => .depth

mutual

def FrameKey.write : (room : Nat) → FrameKey → Except WriteFault Json
  | _, .absent => .ok .null
  | _, .text s => .ok (.text s)
  | _, .value v => .ok v
  | 0, .frame _ _ => .error .tooDeep
  | room + 1, .frame inner outer => inner.write room (Frame.writeChain room outer)

def Frame.write : (room : Nat) → Frame → Except WriteFault Json → Except WriteFault Json
  | room, .mk mode key indent, outer => do
    let key ← key.write room
    let previous ← outer
    return Frame.object mode key previous indent

def Frame.writeChain : (room : Nat) → List Frame → Except WriteFault Json
  | _, [] => .ok .null
  | 0, _ :: _ => .error .tooDeep
  | room + 1, f :: outer => f.write room (Frame.writeChain room outer)

end

end QueryHints
