import QueryHints.Engine

namespace QueryHints.Session

inductive Holding
  | source (source : Source)
  | value (limits : Limits) (value : Json)

abbrev Shelf := Nat → Holding

def Shelf.subject (shelf : Shelf) (place : Nat) : Subject :=
  match shelf place with
  | .source source => .held place source
  | .value limits value => .plain limits value

def Shelf.owner (shelf : Shelf) (place : Nat) : Owner :=
  match shelf place with
  | .value _ .null => .nobody
  | _ => .held place

/-- The caches by number, and the paths that the hook at each place was called with. -/
structure State where
  caches : Nat → Cache
  asked : Nat → List Path

namespace State

def initial : State := ⟨fun _ => .empty, fun _ => []⟩

def setCache (state : State) (slot : Nat) (cache : Cache) : State :=
  { state with caches := fun n => if n = slot then cache else state.caches n }

def noteCall (state : State) (place : Nat) (called : Option Path) : State :=
  match called with
  | some path =>
    { state with asked := fun n => if n = place then state.asked n ++ [path] else state.asked n }
  | none => state

end State

structure Seat where
  engine : Engine
  slot : Nat

inductive Step
  | complete (seat : Seat) (place : Nat) (query : Query) (limit : Json)
  | hint (seat : Seat) (place : Nat) (token : Token) (cursor : Editor.Position)
  | discover (slot place : Nat) (context : Option Context) (reports : Bool)
  | reset (seat : Seat)
  | bind (slot place : Nat)
  | clear (slot : Nat)
  | get (slot : Nat) (context : Context)
  | put (slot : Nat) (context : Context) (names : Names)

inductive Answer
  | completion (completion : Option Completion)
  | hint (list : Option Editor.HintList)
  | names (names : Option Names)
  | done

structure Outcome where
  result : Except CompletionFault Answer
  called : Option (Nat × Path)
  reported : List DiscoveryFault
  events : List Event

def Outcome.quiet (answer : Answer) (events : List Event) : Outcome :=
  ⟨.ok answer, none, [], events⟩

def completeAt (shelf : Shelf) (state : State) (seat : Seat) (place : Nat) (query : Query)
    (limit : Json) (form : Option Completion → Answer) : State × Outcome :=
  let reply := seat.engine.complete (state.caches seat.slot) (shelf.subject place)
    (state.asked place) query limit
  ((state.setCache seat.slot reply.cache).noteCall place reply.called,
    ⟨reply.result.map form, reply.called.map fun path => (place, path), reply.reported, reply.events⟩)

def step (shelf : Shelf) (state : State) : Step → State × Outcome
  | .complete seat place query limit =>
    completeAt shelf state seat place query limit .completion
  | .hint seat place token cursor =>
    completeAt shelf state seat place (Editor.hintQuery token cursor) .null
      fun completion => .hint (completion.map (Editor.hintList cursor))
  | .discover slot place context reports =>
    match QueryHints.discover (shelf.subject place) (state.asked place) context
      (some (state.caches slot)) with
    | .error fault => (state, ⟨.error (.index fault), none, [], []⟩)
    | .ok d =>
      let faults := d.fault.toList
      ((state.setCache slot (d.cache.getD (state.caches slot))).noteCall place d.called,
        { result := .ok (.names (some d.found))
          called := d.called.map fun path => (place, path)
          reported := if reports then faults else []
          events := d.events ++ (if reports then [] else faults.map fun _ => .candidatesFailed) })
  | .reset seat => (state.setCache seat.slot .empty, .quiet .done [.cacheReset])
  | .bind slot place =>
    let cache := state.caches slot
    let owner := shelf.owner place
    (state.setCache slot (cache.bind owner), .quiet .done (Event.ofDropped (cache.dropCount owner)))
  | .clear slot => (state.setCache slot .empty, .quiet .done [])
  | .get slot context => (state, .quiet (.names ((state.caches slot).get? context)) [])
  | .put slot context names =>
    (state.setCache slot ((state.caches slot).put context names), .quiet .done [])

def run (shelf : Shelf) (state : State) : List Step → List (State × Outcome)
  | [] => []
  | s :: rest =>
    let next := step shelf state s
    next :: run shelf next.1 rest

end QueryHints.Session
