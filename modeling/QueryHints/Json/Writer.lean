import QueryHints.Json.Basic
import QueryHints.Number.Shortest
import QueryHints.Text.Quoted

namespace QueryHints.Json

/-- One letter inside a JSON text. Everything from the space on stands for itself, the quote and the
backslash apart. -/
def escaped (c : Letter) : Text :=
  if c = '"' then ['\\', '"']
  else if c = '\\' then ['\\', '\\']
  else if c = '\n' then ['\\', 'n']
  else if c = '\r' then ['\\', 'r']
  else if c = '\t' then ['\\', 't']
  else if c.code = 12 then ['\\', 'f']
  else if c.code = 8 then ['\\', 'b']
  else if c.code < 0x20 then '\\' :: 'u' :: (Text.hexDigits 4 c.code).map Letter.ofChar
  else [c]

def quoted (s : Text) : Text :=
  Text.of "\"" ++ s.flatMap escaped ++ Text.of "\""

def realWritten (x : Binary64) : Text :=
  x.text "NaN" "Infinity"

mutual

def compact : Json → Text
  | null => Text.of "null"
  | bool b => Text.of (if b then "true" else "false")
  | int n => Text.of (toString n)
  | real x => realWritten x
  | text s => quoted s
  | list items => Text.of "[" ++ List.intercalate (Text.of ", ") (compactItems items) ++ Text.of "]"
  | object fields =>
    Text.of "\x7b" ++ List.intercalate (Text.of ", ") (compactFields fields) ++ Text.of "\x7d"

def compactItems : List Json → List Text
  | [] => []
  | v :: rest => v.compact :: compactItems rest

def compactFields : List (Text × Json) → List Text
  | [] => []
  | (name, v) :: rest => (quoted name ++ Text.of ": " ++ v.compact) :: compactFields rest

end

def newline (level : Nat) : Text :=
  '\n' :: List.replicate (2 * level) (Letter.ofChar ' ')

def bracketed (level : Nat) (opening closing : Text) (items : List Text) : Text :=
  if items.isEmpty then opening ++ closing
  else
    opening ++ newline (level + 1) ++ List.intercalate (Text.of "," ++ newline (level + 1)) items
      ++ newline level ++ closing

mutual

def indented (level : Nat) : Json → Text
  | list items => bracketed level "[" "]" (indentedItems (level + 1) items)
  | object fields => bracketed level "\x7b" "\x7d" (indentedFields (level + 1) fields)
  | v => v.compact

def indentedItems (level : Nat) : List Json → List Text
  | [] => []
  | v :: rest => v.indented level :: indentedItems level rest

def indentedFields (level : Nat) : List (Text × Json) → List Text
  | [] => []
  | (name, v) :: rest =>
    (quoted name ++ Text.of ": " ++ v.indented level) :: indentedFields level rest

end

end QueryHints.Json
