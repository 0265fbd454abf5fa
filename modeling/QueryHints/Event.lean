namespace QueryHints

inductive Level
  | info
  | warning
  | error
  deriving Repr, DecidableEq

def Level.name : Level → String
  | .info => "INFO"
  | .warning => "WARNING"
  | .error => "ERROR"

inductive Event
  | rowsDropped (count : Nat)
  | candidatesFailed
  | discoveryFailed (reason : String)
  | cacheReset
  | rulesUnusable (path : String)
  | indexLoaded (path : String) (idents : Nat)
  | indexReplaced
  | requestCrashed (path method : String)
  deriving Repr, DecidableEq

namespace Event

def ofDropped (count : Nat) : List Event :=
  if count = 0 then [] else [.rowsDropped count]

def level : Event → Level
  | rowsDropped _ | cacheReset | indexLoaded .. | indexReplaced => .info
  | candidatesFailed | discoveryFailed _ | rulesUnusable _ => .warning
  | requestCrashed .. => .error

def logger : Event → String
  | rowsDropped _ | candidatesFailed => "eqlcomplete.discovery"
  | discoveryFailed _ | cacheReset => "eqlcomplete.engine"
  | rulesUnusable _ | indexLoaded .. => "eqlcomplete.loader"
  | indexReplaced | requestCrashed .. => "frontend.web"

def message : Event → String
  | rowsDropped count =>
    "Schema index changed; dropping " ++ toString count ++ " cached candidate sets"
  | candidatesFailed => "Candidate hook failed; showing no suggestions"
  | discoveryFailed reason => "Attribute discovery hook failed: " ++ reason
  | cacheReset => "Engine cache reset"
  | rulesUnusable path => path ++ " has no map-shaped index-io; completions will be empty"
  | indexLoaded path idents =>
    "Loaded schema index from " ++ path ++ ": idents=" ++ toString idents
  | indexReplaced => "Schema index replaced"
  | requestCrashed path method => "Exception on " ++ path ++ " [" ++ method ++ "]"

end Event

end QueryHints
