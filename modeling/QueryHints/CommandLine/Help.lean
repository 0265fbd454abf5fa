import QueryHints.CommandLine.Options

namespace QueryHints.CommandLine

namespace Opt

def placeholder (opt : Opt) : String :=
  (String.ofList (opt.key.toList.dropWhile (· == '-'))).toUpper

def under (opt : Opt) (name : String) : String :=
  if opt.takesValue then name ++ " " ++ opt.placeholder else name

/-- How an option is given under its first name. A required one comes apart where the line is full. -/
def usageParts (opt : Opt) : List String :=
  let name := opt.names.headD ""
  if !opt.required then ["[" ++ opt.under name ++ "]"]
  else if opt.takesValue then [name, opt.placeholder]
  else [name]

def invocation (opt : Opt) : String :=
  String.intercalate ", " (opt.names.map opt.under)

end Opt

def spaces (count : Nat) : String :=
  String.ofList (List.replicate count ' ')

/-- Parts side by side, in as many lines as they need. `used` columns of the first line are taken already, and
so are `indent` of the others. -/
def lines (width indent : Nat) : (used : Nat) → (line : List String) → List String → List String
  | _, line, [] => if line.isEmpty then [] else [String.intercalate " " line]
  | used, line, part :: rest =>
    if width < used + part.length && !line.isEmpty then
      String.intercalate " " line :: lines width indent (indent + part.length + 1) [part] rest
    else lines width indent (used + part.length + 1) (line ++ [part]) rest

def usageLines (width : Nat) (program : String) (opts : List Opt) : List String :=
  let parts := opts.flatMap Opt.usageParts
  let head := "usage: ".length
  if head + (String.intercalate " " (program :: parts)).length ≤ width then
    [String.intercalate " " (program :: parts)]
  else if 4 * (head + program.length) ≤ 3 * width then
    let indent := head + program.length + 1
    match lines width indent head [] (program :: parts) with
    | [] => []
    | first :: rest => first :: rest.map (spaces indent ++ ·)
  else program :: (lines width head head [] parts).map (spaces head ++ ·)

def usageText (width : Nat) (program : String) (opts : List Opt) : String :=
  "usage: " ++ String.intercalate "\n" (usageLines width program opts)

def filled (width : Nat) (s : String) : List String :=
  lines width 0 0 [] ((Text.words (Text.of s)).map Text.toString)

def narrowest : Nat := 11

def helpColumn (width : Nat) (opts : List Opt) : Nat :=
  let longest := (opts.map fun opt => opt.invocation.length).foldl max 0
  min (longest + 4) (min 24 (max (width - 20) 4))

def optionLines (width column : Nat) (opt : Opt) : List String :=
  let head := "  " ++ opt.invocation
  match filled (max (width - column) narrowest) opt.help with
  | [] => [head]
  | first :: rest =>
    let further := rest.map (spaces column ++ ·)
    if head.length + 2 ≤ column then
      (head ++ spaces (column - head.length) ++ first) :: further
    else head :: (spaces column ++ first) :: further

def helpText (columns : Nat) (program description : String) (opts : List Opt) : String :=
  let width := columns - 2
  let about := filled (max width narrowest) description
  String.intercalate "\n" (
    [usageText width program opts, ""] ++ about ++ ["", "options:"]
      ++ opts.flatMap (optionLines width (helpColumn width opts))) ++ "\n"

end QueryHints.CommandLine
