import QueryHints.CommandLine.Ending
import QueryHints.Service

namespace QueryHints.CommandLine.Serving

def description : String := "Serve EQL completions over HTTP"

def options : List Opt := [
  helpOption,
  ⟨["--index"], .text, false, "Schema index JSON file to start with"⟩,
  ⟨["--host"], .text, false, ""⟩,
  ⟨["--port"], .whole, false, ""⟩,
  ⟨["--verbose"], .nothing, false, ""⟩]

/-- A started service: its address, whether it debugs, and its state at the start. Of the address, what was
given without saying anything is missing. -/
structure Start where
  host : Option String
  portNumber : Option Int
  debug : Bool
  state : Service.State

structure Served where
  ending : Ending
  start : Option Start

def unserved (ending : Ending) : Served := ⟨ending, none⟩

def serve (values : List (String × Value)) (state : Service.State) : Served :=
  let verbose := isGiven values "--verbose"
  ⟨.success verbose "", some {
    host := (text values "--host").orElse "127.0.0.1"
    portNumber := (whole values "--port").orElse 8000
    debug := verbose
    state }⟩

def perform (limits : Limits) (files : Files.Lookup) (values : List (String × Value)) : Served :=
  match text values "--index" with
  | .absent | .unsaid | .value "" => serve values .initial
  | .value path =>
    match Files.loadIndex limits files path with
    | .ok index => serve values (Service.State.initial.replace index)
    | .error fault => unserved (.escape (isGiven values "--verbose") (.load fault))

def run (limits : Limits) (console : Console) (program : String) (files : Files.Lookup)
    (arguments : List String) : Served :=
  match parse options arguments with
  | .error fault => unserved (.usageError program false fault.message)
  | .ok .help =>
    unserved (.printing console false [Text.of (helpText console.columns program description options)])
  | .ok (.values values) => perform limits files values

end QueryHints.CommandLine.Serving
