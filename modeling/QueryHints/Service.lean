import QueryHints.Engine

namespace QueryHints.Service

inductive Route
  | complete
  | index
  | health
  deriving Repr, DecidableEq

inductive Found
  | route (route : Route)
  | other (status : Nat)
  deriving Repr, DecidableEq

inductive Body
  | absent
  | json (value : Json)
  | tooDeep

def Body.value? : Body → Option Json
  | .absent => some .null
  | .json v => some v
  | .tooDeep => none

structure Request where
  method : String
  path : String
  found : Found
  body : Body

structure State where
  live : Option (Nat × Index)
  cache : Cache
  fresh : Nat

def State.initial : State := ⟨none, .empty, 0⟩

def State.replace (state : State) (index : Index) : State :=
  { state with live := some (state.fresh, index), fresh := state.fresh + 1 }

structure Response where
  status : Nat
  body : Option Json
  events : List Event

def Response.ok (body : Json) : Response := ⟨200, some body, []⟩

def Response.bad (message : String) : Response :=
  ⟨400, some (.object [("error", .text message)]), []⟩

def Response.bare (status : Nat) : Response := ⟨status, none, []⟩

def Response.crash (request : Request) (before : List Event) : Response :=
  ⟨500, none, before ++ [.requestCrashed request.path request.method]⟩

def readWhole (v : Json) : Except TokenFault (Option Int) :=
  if v.isNull then .ok none else (v.whole.mapError .whole).map some

/-- What a completion request asks: token, cursor and limit are read in this order. -/
def readQuery (limits : Limits) (token : Json.Fields) (body : Json.Fields) :
    Except TokenFault (Query × Option Int) := do
  let token ← Token.ofFields limits token
  let cursor ← readWhole (Json.Fields.get body "cursor")
  let limit ← readWhole (Json.Fields.get body "top_k")
  let fragment := match Json.Fields.get body "fragment" with
    | .text s => s
    | _ => token.text
  return ({ token, fragment, cursor }, limit)

def isExpected : FaultClass → Bool
  | .value | .kind => true
  | _ => false

def Response.ofCompletion (request : Request) (events : List Event) :
    Except CompletionFault (Option Completion) → Response
  | .ok (some c) =>
    if Numeral.isWritable c.replaceFrom && Numeral.isWritable c.replaceTo then
      ⟨200, some c.toJson, events⟩
    else .crash request events
  | .ok none => ⟨200, some .null, events⟩
  | .error _ => .crash request events

def completeLive (state : State) (request : Request) (query : Query) (limit : Option Int) :
    State × Response :=
  match state.live with
  | none => (state, .ok .null)
  | some (id, index) =>
    let reply := Engine.complete {} state.cache (.held id ⟨index, none⟩) [] query
      (match limit with | some n => .int n | none => .null)
    ({ state with cache := reply.cache }, .ofCompletion request reply.events reply.result)

def complete (limits : Limits) (state : State) (request : Request) : State × Response :=
  match request.body.value? with
  | none => (state, .crash request [])
  | some (.object body) =>
    match Json.Fields.get body "token" with
    | .object token =>
      match readQuery limits token body with
      | .error fault =>
        if isExpected fault.fault then (state, .bad ("malformed token: " ++ fault.message))
        else (state, .crash request [])
      | .ok (query, limit) =>
        if limit.any (· < 1) then (state, .bad "top_k must be a positive integer")
        else completeLive state request query limit
    | _ => (state, .bad "expected JSON object with a 'token' object")
  | some _ => (state, .bad "expected JSON object with a 'token' object")

def putIndex (limits : Limits) (state : State) (request : Request) : State × Response :=
  match request.body.value? with
  | none => (state, .crash request [])
  | some v =>
    match Index.ofJson limits v with
    | .error fault =>
      if isExpected fault.fault then (state, .bad fault.message) else (state, .crash request [])
    | .ok index =>
      (state.replace index,
        ⟨200, some (.object [("ok", .bool true), ("idents", .int index.idents.length)]),
          [.indexReplaced]⟩)

def health (state : State) : Response :=
  .ok (.object [("ok", .bool true), ("index", .bool state.live.isSome)])

def handle (limits : Limits) (state : State) (request : Request) : State × Response :=
  match request.found with
  | .route .complete => complete limits state request
  | .route .index => putIndex limits state request
  | .route .health => (state, health state)
  | .other status => (state, .bare status)

def run (limits : Limits) (state : State) : List Request → List (State × Response)
  | [] => []
  | request :: rest =>
    let next := handle limits state request
    next :: run limits next.1 rest

end QueryHints.Service
