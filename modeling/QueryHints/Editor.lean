import QueryHints.Completion

namespace QueryHints.Editor

structure Position where
  line : Int
  ch : Int
  deriving Repr, DecidableEq

inductive Call
  | replace (text : Text) (start stop : Position)
  | moveCursor (position : Position)
  | showHint
  deriving Repr, DecidableEq

structure HintList where
  items : List Text
  start : Position
  stop : Position
  deriving Repr, DecidableEq

def hintQuery (token : Token) (cursor : Position) : Query :=
  { token
    fragment := token.text.take (cursor.ch - token.start).toNat
    cursor := some cursor.ch }

def hintList (cursor : Position) (c : Completion) : HintList :=
  ⟨c.candidates, ⟨cursor.line, c.replaceFrom⟩, ⟨cursor.line, c.replaceTo⟩⟩

def blanks (width : Int) : Text :=
  List.replicate width.toNat (Letter.ofChar ' ')

/-- The column of the attribute list that a composite attribute stands in. No other token can become a
join. -/
def joinIndent? (token : Token) : Option Int :=
  match token.frames with
  | frame :: _ =>
    if frame.mode = some .attrList && token.kind = .composite then some frame.indent else none
  | [] => none

/-- A join of a key and where the cursor goes. At the start of an indented line it opens its list on the
next line, elsewhere it stays in the line; the cursor ends up between the brackets. -/
def joined (token : Token) (indent : Int) (line : Int) : Text × Position :=
  if token.start = indent then
    (Text.of "\x7b" ++ token.text ++ Text.of "\n" ++ blanks (indent + 1) ++ Text.of "[]\x7d",
      ⟨line + 1, indent + 2⟩)
  else
    (Text.of "\x7b" ++ token.text ++ Text.of " []\x7d",
      ⟨line, token.start + token.text.length + 3⟩)

def join (token : Token) (cursor : Position) : Option (List Call) :=
  (joinIndent? token).map fun indent =>
    let (text, target) := joined token indent cursor.line
    [.replace text ⟨cursor.line, token.start⟩ ⟨cursor.line, token.stop⟩, .moveCursor target, .showHint]

inductive IndentFault
  | wide
  | huge
  deriving Repr, DecidableEq

def IndentFault.message : IndentFault → String
  | .wide => "cannot fit 'int' into an index-sized integer"
  | .huge => ""

def IndentFault.fault : IndentFault → FaultClass
  | .wide => .range
  | .huge => .memory

def wordBound : Int := 0x8000000000000000

def widthFault? (limit width : Int) : Option IndentFault :=
  if width < -wordBound || wordBound ≤ width then some .wide
  else if limit < width then some .huge
  else none

def joinFault? (limit : Int) (token : Token) : Option IndentFault :=
  (joinIndent? token).bind fun indent =>
    if token.start = indent then widthFault? limit (indent + 1) else none

def tryJoin (limit : Int) (token : Token) (cursor : Position) : Except IndentFault (Option (List Call)) :=
  match joinFault? limit token with
  | some fault => .error fault
  | none => .ok (join token cursor)

def hasBelow (index : Index) (token : Token) (key : Text) : Bool :=
  match Context.ofToken? index token with
  | some (.attributes path) =>
    let plain := path.filter fun key => !Key.isPlaceholder key
    ((index.treeAt plain).below? key).any fun below => !below.isEmpty
  | _ => false

/-- An attribute with something below it. Placeholders can always be expanded. -/
def isExpandable (subject : Subject) (token : Token) : Except IndexFault Bool :=
  if token.kind ≠ .atom then .ok false
  else
    let key := Key.ofText token.text
    if Key.isPlaceholder key then .ok true
    else subject.source.map fun
      | some source => source.index.isWellFormed && hasBelow source.index token key
      | none => false

end QueryHints.Editor
