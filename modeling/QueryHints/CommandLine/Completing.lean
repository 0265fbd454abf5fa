import QueryHints.CommandLine.Ending
import QueryHints.Engine
import QueryHints.Json.Writer

namespace QueryHints.CommandLine.Completing

def description : String := "EQL completion CLI (one token, one answer)"

def options : List Opt := [
  helpOption,
  ⟨["--index"], .text, true, "Schema index JSON file"⟩,
  ⟨["--token"], .text, true, "Token JSON file (text, offsets, state chain)"⟩,
  ⟨["--fragment"], .text, false, "Typed text before the cursor (default: whole token)"⟩,
  ⟨["--cursor"], .whole, false, "Cursor offset (default: end of fragment)"⟩,
  ⟨["-k"], .whole, false, "Top-K results"⟩,
  ⟨["--json"], .nothing, false, "Emit JSON"⟩,
  ⟨["--verbose"], .nothing, false, ""⟩]

structure Settings where
  indexPath : Given String
  tokenPath : Given String
  fragment : Given String
  cursor : Given Int
  count : Given Int
  json : Bool
  verbose : Bool

def Settings.ofValues (values : List (String × Value)) : Settings :=
  { indexPath := text values "--index"
    tokenPath := text values "--token"
    fragment := text values "--fragment"
    cursor := whole values "--cursor"
    count := whole values "-k"
    json := isGiven values "--json"
    verbose := isGiven values "--verbose" }

structure Written where
  candidates : List Text
  replaceFrom : Json
  replaceTo : Json

def Written.ofCompletion (c : Completion) : Written :=
  ⟨c.candidates, .int c.replaceFrom, .int c.replaceTo⟩

def Written.nowhere (c : Completion) : Written :=
  ⟨c.candidates, .list [], .list []⟩

def isWritable : Json → Bool
  | .int n => Numeral.isWritable n
  | _ => true

def Written.isWritable (w : Written) : Bool :=
  Completing.isWritable w.replaceFrom && Completing.isWritable w.replaceTo

def numbered (n : Nat) : String :=
  let digits := toString n
  digits ++ String.ofList (List.replicate (3 - digits.length) ' ')

def wordLines (start : Nat) : List Text → List Text
  | [] => []
  | word :: rest => (Text.of (numbered start ++ " ") ++ word ++ Text.of "\n") :: wordLines (start + 1) rest

def listing : Option Written → List Text
  | none => [Text.of "(no completions)\n"]
  | some w =>
    Text.of ("replace [" ++ w.replaceFrom.literal ++ ", " ++ w.replaceTo.literal ++ ")\n")
      :: wordLines 1 w.candidates

def Written.toJson (w : Written) : Json :=
  .object [("candidates", .list (w.candidates.map .text)), ("replace_from", w.replaceFrom),
    ("replace_to", w.replaceTo)]

def document (w : Option Written) : Text :=
  ((w.map Written.toJson).getD .null).indented 0 ++ Text.of "\n"

def pathOf : Given String → Except Escape String
  | .value path => .ok path
  | _ => .error (.unsaid .path)

def load (limits : Limits) (files : Files.Lookup) (settings : Settings) : Except Escape (Index × Token) := do
  let indexPath ← pathOf settings.indexPath
  let index ← (Files.loadIndex limits files indexPath).mapError .load
  let tokenPath ← pathOf settings.tokenPath
  let token ← (Files.loadToken limits files tokenPath).mapError .load
  return (index, token)

def Settings.typed (settings : Settings) (token : Token) : Text :=
  match settings.fragment with
  | .absent => token.text
  | .unsaid => []
  | .value s => s

def completion (settings : Settings) (index : Index) (query : Query) :
    Except Escape (Option Completion) :=
  let limit := match settings.count with | .value n => .int n | _ => Json.null
  (Engine.complete { limit } .empty (.held 0 ⟨index, none⟩) [] query .null).result.mapError .completion

/-- Answers the one query of a run. A cursor that was not said will do for a bare trigger only. -/
def answer (settings : Settings) (index : Index) (token : Token) : Except Escape (Option Written) :=
  let fragment := settings.typed token
  match settings.cursor with
  | .absent => (completion settings index ⟨token, fragment, none⟩).map (·.map .ofCompletion)
  | .value n => (completion settings index ⟨token, fragment, some n⟩).map (·.map .ofCompletion)
  | .unsaid =>
    if Search.isBare fragment then
      (completion settings index ⟨token, fragment, none⟩).map (·.map .nowhere)
    else .error (.unsaid .cursor)

def pieces (settings : Settings) (w : Option Written) : List Text :=
  if settings.json then [document w] else listing w

def write (console : Console) (settings : Settings) (w : Option Written) : Ending :=
  if w.all Written.isWritable then .printing console settings.verbose (pieces settings w)
  else .escape settings.verbose .unwritable

def perform (limits : Limits) (console : Console) (program : String) (files : Files.Lookup)
    (settings : Settings) : Ending :=
  match load limits files settings with
  | .error fault =>
    if Files.isReportable fault.fault then .usageError program settings.verbose fault.message
    else .escape settings.verbose fault
  | .ok (index, token) =>
    match answer settings index token with
    | .error fault => .escape settings.verbose fault
    | .ok w => write console settings w

def checked (limits : Limits) (console : Console) (program : String) (files : Files.Lookup)
    (settings : Settings) : Ending :=
  match settings.count with
  | .unsaid => .escape false (.unsaid .count)
  | .value n =>
    if n < 1 then .usageError program false "-k must be a positive integer"
    else perform limits console program files settings
  | .absent => perform limits console program files settings

def help (console : Console) (program : String) : Text :=
  Text.of (helpText console.columns program description options)

def run (limits : Limits) (console : Console) (program : String) (files : Files.Lookup)
    (arguments : List String) : Ending :=
  match parse options arguments with
  | .error fault => .usageError program false fault.message
  | .ok .help => .printing console false [help console program]
  | .ok (.values values) => checked limits console program files (.ofValues values)

def paths (arguments : List String) : List String :=
  match parse options arguments with
  | .ok (.values values) =>
    let settings := Settings.ofValues values
    [settings.indexPath, settings.tokenPath].filterMap fun
      | .value path => some path
      | _ => none
  | _ => []

end QueryHints.CommandLine.Completing
