import QueryHints.Context
import QueryHints.Schema.Decode

namespace QueryHints

abbrev Path := List Text

structure HookError where
  kind : String
  message : String
  deriving Repr, DecidableEq

/-- Given the paths of its earlier calls and a path, a hook answers a value or fails. There is some room for
showing what its answers list. -/
structure Hook where
  answer : (earlier : List Path) → Path → Except HookError Json
  room : Nat

inductive DiscoveryFault
  | raised (error : HookError)
  | notCollection (kind : Kind)
  | unshown (fault : Json.ShowFault)
  deriving Repr, DecidableEq

def DiscoveryFault.message : DiscoveryFault → String
  | .raised error => error.message
  | .notCollection kind => "'" ++ kind.name ++ "' object is not iterable"
  | .unshown fault => fault.message

structure Source where
  index : Index
  hook : Option Hook

namespace Source

/-- The keys in a hook's answer: the items of a list, the field names of an object, the letters of a
text. -/
def keysOf (room : Nat) : Json → Except DiscoveryFault (List Text)
  | .list items => (Json.showAll? room items).mapError .unshown
  | .object fields => .ok (fields.map Prod.fst)
  | .text s => .ok (s.map fun c => [c])
  | v => .error (.notCollection v.kind)

def attributesAmong (keys : List Text) : Names :=
  Names.ofTexts (keys.filter fun key => !Key.isPlaceholder key)

def offered (room : Nat) (answer : Except HookError Json) : Except DiscoveryFault Names :=
  match answer with
  | .error error => .error (.raised error)
  | .ok v => (keysOf room v).map attributesAmong

structure Exploration where
  found : Except DiscoveryFault Names
  called : Option Path

/-- Candidates for a context. Placeholders count neither in the path nor as candidates for attributes, and
nothing ignored is a candidate. -/
def explore (source : Source) (earlier : List Path) : Context → Exploration
  | .ident => ⟨.ok (source.index.idents.without source.index.ignored), none⟩
  | .attributes path =>
    let plain := path.filter fun key => !Key.isPlaceholder key
    match source.hook with
    | some hook =>
      ⟨(offered hook.room (hook.answer earlier plain)).map fun names => names.without source.index.ignored,
        some plain⟩
    | none =>
      ⟨.ok ((attributesAmong (source.index.reachable plain)).without source.index.ignored), none⟩

end Source

/-- What a caller hands in: a source that it keeps under an identity, or a plain value that is read anew
on every use, as far as the limits allow. -/
inductive Subject
  | held (id : Nat) (source : Source)
  | plain (limits : Limits) (value : Json)

namespace Subject

def source : Subject → Except IndexFault (Option Source)
  | held _ source => .ok (some source)
  | plain limits value => (Index.adapt limits value).map (Option.map fun index => ⟨index, none⟩)

def isHeld : Subject → Bool
  | held .. => true
  | plain .. => false

end Subject

end QueryHints
