import QueryHints.Editor

namespace QueryHints

/-- The settings of an engine: its limit, for queries that bring none, and whether failures of a hook are
reported to the caller or noted as events. -/
structure Engine where
  limit : Json := .null
  reports : Bool := false

structure Engine.Reply where
  result : Except CompletionFault (Option Completion)
  cache : Cache
  called : Option Path
  reported : List DiscoveryFault
  events : List Event

structure Engine.Hint where
  list : Except CompletionFault (Option Editor.HintList)
  calls : List Editor.Call
  reply : Reply

namespace Engine

def complete (engine : Engine) (cache : Cache) (subject : Subject) (earlier : List Path)
    (query : Query) (limit : Json) : Reply :=
  let limit := if limit.isNull then engine.limit else limit
  let completed :=
    QueryHints.complete subject earlier query limit (if subject.isHeld then some cache else none)
  let faults := completed.discovered.fault.toList
  { result := completed.result
    cache := completed.discovered.cache.getD cache
    called := completed.discovered.called
    reported := if engine.reports then faults else []
    events := completed.discovered.events
      ++ (if engine.reports then [] else faults.map fun fault => .discoveryFailed fault.message) }

/-- The hints for the token under the cursor of an editor. Whoever asks for them only looks at the editor:
the list says what a chosen item would replace. -/
def hint (engine : Engine) (cache : Cache) (subject : Subject) (earlier : List Path) (token : Token)
    (cursor : Editor.Position) : Hint :=
  let reply := engine.complete cache subject earlier (Editor.hintQuery token cursor) .null
  { list := reply.result.map fun completion => completion.map (Editor.hintList cursor)
    calls := []
    reply }

end Engine

end QueryHints
