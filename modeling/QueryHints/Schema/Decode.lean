import QueryHints.Fault
import QueryHints.Limits
import QueryHints.Schema.Index
import QueryHints.Text.Blank

namespace QueryHints

inductive IndexFault
  | notObject (kind : Kind)
  | entryNotObject
  | notCollection (kind : Kind)
  | nested (kind : Kind)
  | tooDeep
  | unshown (fault : Json.ShowFault)
  deriving Repr, DecidableEq

def IndexFault.message : IndexFault → String
  | .notObject kind => "schema index must be an object, got " ++ kind.name
  | .entryNotObject => "index-io entries must be objects with inputs/outputs"
  | .notCollection kind => "malformed schema index: '" ++ kind.name ++ "' object is not iterable"
  | .nested kind => "malformed schema index: unhashable type: '" ++ kind.name ++ "'"
  | .tooDeep => "maximum recursion depth exceeded in comparison"
  | .unshown fault => fault.message

/-- Whatever makes an index unreadable is a fault of its value, except its depth. -/
def IndexFault.fault : IndexFault → FaultClass
  | .tooDeep => .depth
  | .unshown fault => fault.fault
  | .notObject _ | .entryNotObject | .notCollection _ | .nested _ => .value

namespace Schema

open Json (Fields)

def readInputs (limits : Limits) (v : Json) : Except IndexFault (List Text) :=
  if v.isVoid then .ok []
  else match v with
    | .text s => .ok (Text.words s)
    | .list items => (Json.showAll? limits.inputs items).mapError .unshown
    | .object fields => .ok (fields.map Prod.fst)
    | v => .error (.notCollection v.kind)

def readNameList : List Json → Except IndexFault (List Name)
  | [] => .ok []
  | v :: rest =>
    match Name.ofJson? v with
    | some name => (readNameList rest).map (name :: ·)
    | none => .error (.nested v.kind)

/-- The names that a value lists: a text is a list of its letters, an object one of its field names. -/
def readNames (v : Json) : Except IndexFault Names :=
  if v.isVoid then .ok []
  else match v with
    | .text s => .ok (Names.ofTexts (s.map fun c => [c]))
    | .list items => (readNameList items).map Names.ofList
    | .object fields => .ok (Names.ofTexts (fields.map Prod.fst))
    | v => .error (.notCollection v.kind)

/-- Adds a rule. `combine` makes one rule out of a known one with the same inputs and the new one. -/
def addRule (combine : Rule → Rule → Rule) (new : Rule) : List Rule → List Rule
  | [] => [new]
  | rule :: rest =>
    if rule.inputs = new.inputs then combine rule new :: rest
    else rule :: addRule combine new rest

mutual

/-- The first thing that keeps a value from being read as outputs, given the room at each level that can be
entered. -/
def outputsFault? : (rooms : List Nat) → Json → Option IndexFault
  | [], _ => some .tooDeep
  | _ :: deeper, .object fields => outputsFaultAmong? deeper fields
  | room :: _, .list items => (items.findSome? (Json.showFault? room)).map .unshown
  | _ :: _, _ => none

def outputsFaultAmong? : (rooms : List Nat) → List (Text × Json) → Option IndexFault
  | _, [] => none
  | rooms, (_, v) :: rest => (outputsFault? rooms v).or (outputsFaultAmong? rooms rest)

end

def readRule (limits : Limits) (inputs : List Text) (v : Json) : Except IndexFault Rule :=
  match outputsFault? limits.outputs v with
  | some fault => .error fault
  | none => .ok ⟨Rule.inputSet inputs, .ofJson v, Tree.distinct_ofJson v⟩

def readEntries (limits : Limits) (rules : List Rule) : List Json → Except IndexFault (List Rule)
  | [] => .ok rules
  | .object fields :: rest =>
    match readInputs limits (Fields.get fields "inputs") with
    | .error fault => .error fault
    | .ok inputs =>
      match readRule limits inputs (Fields.get fields "outputs") with
      | .error fault => .error fault
      | .ok rule => readEntries limits (addRule Rule.joinedWith rule rules) rest
  | _ :: _ => .error .entryNotObject

def readTable (limits : Limits) (rules : List Rule) : List (Text × Json) → Except IndexFault (List Rule)
  | [] => .ok rules
  | (inputs, v) :: rest =>
    match readRule limits (Text.words inputs) v with
    | .error fault => .error fault
    | .ok rule => readTable limits (addRule (fun _ later => later) rule rules) rest

def readRules (limits : Limits) : Json → Except IndexFault Rules
  | .list entries => (readEntries limits [] entries).map .table
  | .object fields => (readTable limits [] fields).map .table
  | v => .ok (.unusable v)

end Schema

namespace Index

open Json (Fields)

def ofFields (limits : Limits) (fields : Fields) : Except IndexFault Index := do
  let rules ← Schema.readRules limits ((Fields.either? fields "index-io" "index_io").getD .null)
  let idents ← Schema.readNames (Fields.get fields "idents")
  let ignored ← Schema.readNames
    ((Fields.either? fields "autocomplete-ignore" "autocomplete_ignore").getD .null)
  return ⟨rules, idents, ignored⟩

def ofJson (limits : Limits) : Json → Except IndexFault Index
  | .object fields => ofFields limits fields
  | v => .error (.notObject v.kind)

/-- The index that a value describes, if it describes one. That a value is too deep is not found out by
trying. -/
def adapt (limits : Limits) (v : Json) : Except IndexFault (Option Index) :=
  match ofJson limits v with
  | .ok index => .ok (some index)
  | .error fault => if fault.fault = .depth then .error fault else .ok none

end Index

end QueryHints
