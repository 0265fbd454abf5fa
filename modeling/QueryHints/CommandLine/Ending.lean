import QueryHints.CommandLine.Console
import QueryHints.CommandLine.Help
import QueryHints.Completion
import QueryHints.Files.Loader

namespace QueryHints.CommandLine

structure Exit where
  status : Nat
  printed : Text
  complaint : Option String
  deriving Repr, DecidableEq

inductive Unsaid
  | path
  | count
  | cursor
  deriving Repr, DecidableEq

def Unsaid.message : Unsaid → String
  | .path => "stat: path should be string, bytes, os.PathLike or integer, not list"
  | .count => "'<' not supported between instances of 'list' and 'int'"
  | .cursor => "unsupported operand type(s) for -: 'list' and 'int'"

inductive Escape
  | load (fault : Files.LoadFault)
  | completion (fault : CompletionFault)
  | unsaid (what : Unsaid)
  | unwritable
  | unprintable (printed : Text) (fault : PrintFault)
  deriving Repr, DecidableEq

def Escape.message : Escape → String
  | .load fault => fault.message
  | .completion fault => fault.message
  | .unsaid what => what.message
  | .unwritable => Numeral.unwritableMessage
  | .unprintable _ fault => fault.message

def Escape.fault : Escape → FaultClass
  | .load fault => fault.fault
  | .completion fault => fault.fault
  | .unsaid _ => .kind
  | .unwritable => .value
  | .unprintable .. => .printing

/-- What had been printed by then. -/
def Escape.printed : Escape → Text
  | .unprintable printed _ => printed
  | _ => []

structure Ending where
  result : Except Escape Exit
  verbose : Bool

def Ending.success (verbose : Bool) (printed : Text) : Ending :=
  ⟨.ok ⟨0, printed, none⟩, verbose⟩

def Ending.usageError (program : String) (verbose : Bool) (message : String) : Ending :=
  ⟨.ok ⟨2, [], some (program ++ ": error: " ++ message)⟩, verbose⟩

def Ending.escape (verbose : Bool) (fault : Escape) : Ending :=
  ⟨.error fault, verbose⟩

def Ending.printing (console : Console) (verbose : Bool) (texts : List Text) : Ending :=
  match console.print [] texts with
  | .ok printed => .success verbose printed
  | .error (printed, fault) => .escape verbose (.unprintable printed fault)

def helpOption : Opt := ⟨["-h", "--help"], .help, false, "show this help message and exit"⟩

end QueryHints.CommandLine
