import QueryHints.Key
import QueryHints.Schema.Index
import QueryHints.Token.Basic

namespace QueryHints

inductive Context
  | ident
  | attributes (path : List Text)
  deriving Repr, DecidableEq

namespace Context

/-- Climbs from join to join, over the attribute list between them, and collects their keys. -/
def climb (index : Index) : List Frame → List Text
  | [] => []
  | frame :: outer =>
    if frame.mode = some .join then
      match frame.key with
      | .frame inner _ =>
        if inner.mode = some .ident then
          match inner.key with
          | .text s => [Key.ofText s]
          | _ => []
        else []
      | .text s =>
        let key := Key.ofText s
        if index.knowsAtRoot key then [key]
        else match outer with
          | _ :: further => key :: climb index further
          | [] => [key]
      | _ => []
    else []

def modeOf (frames : List Frame) : Option Mode :=
  frames.head?.bind Frame.mode

def opens (text : Option Text) : FrameKey → Bool
  | .absent => true
  | .text s => text == some s
  | _ => false

/-- The context of a text inside frames. Behind a parameter expression the text no longer counts. -/
def ofFrames? (index : Index) (text : Option Text) : List Frame → Option Context
  | [] => some (.attributes [])
  | frame :: outer =>
    match frame.mode with
    | some .ident => if opens text frame.key then some .ident else none
    | some .join =>
      if opens text frame.key then
        let skipped := if modeOf outer = some .paramExp then 2 else 1
        some (.attributes (climb index (outer.drop skipped)))
      else none
    | some .attrList =>
      if modeOf outer = none then some (.attributes [])
      else some (.attributes (climb index outer))
    | some .paramExp => ofFrames? index none outer
    | _ => none

def ofToken? (index : Index) (token : Token) : Option Context :=
  ofFrames? index (some token.text) token.frames

end Context

end QueryHints
