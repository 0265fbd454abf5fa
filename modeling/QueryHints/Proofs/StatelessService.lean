import QueryHints.Proofs.CachedDiscovery
import QueryHints.Service

namespace QueryHints.Service

def Response.seen (response : Response) : Nat × Option Json :=
  (response.status, response.body)

def Request.putsIndex (request : Request) : Bool :=
  request.found = .route .index

def Request.asked (limits : Limits) (request : Request) : Except Response (Query × Option Int) :=
  match request.body.value? with
  | none => .error (.crash request [])
  | some (.object body) =>
    match Json.Fields.get body "token" with
    | .object token =>
      match readQuery limits token body with
      | .error fault =>
        .error (if isExpected fault.fault then .bad ("malformed token: " ++ fault.message)
          else .crash request [])
      | .ok (query, limit) =>
        if limit.any (· < 1) then .error (.bad "top_k must be a positive integer")
        else .ok (query, limit)
    | _ => .error (.bad "expected JSON object with a 'token' object")
  | some _ => .error (.bad "expected JSON object with a 'token' object")

def Request.sent (limits : Limits) (request : Request) : Except Response Index :=
  match request.body.value? with
  | none => .error (.crash request [])
  | some v =>
    (Index.ofJson limits v).mapError fun fault =>
      if isExpected fault.fault then .bad fault.message else .crash request []

namespace Stateless

def completeLive (live : Option Index) (request : Request) (query : Query) (limit : Option Int) :
    Response :=
  match live with
  | none => .ok .null
  | some index =>
    .ofCompletion request [] (QueryHints.complete (.held 0 ⟨index, none⟩) [] query
      (match limit with | some n => .int n | none => .null) none).result

def complete (limits : Limits) (live : Option Index) (request : Request) : Response :=
  match request.asked limits with
  | .error refusal => refusal
  | .ok (query, limit) => completeLive live request query limit

def putIndex (limits : Limits) (request : Request) : Response :=
  match request.sent limits with
  | .error refusal => refusal
  | .ok index =>
    ⟨200, some (.object [("ok", .bool true), ("idents", .int index.idents.length)]), []⟩

def health (live : Option Index) : Response :=
  .ok (.object [("ok", .bool true), ("index", .bool live.isSome)])

/-- The response to a request: the index is all that it depends on besides the request. -/
def respond (limits : Limits) (live : Option Index) (request : Request) : Response :=
  match request.found with
  | .route .complete => complete limits live request
  | .route .index => putIndex limits request
  | .route .health => health live
  | .other status => .bare status

def next (limits : Limits) (live : Option Index) (request : Request) : Option Index :=
  if request.putsIndex ∧ (respond limits live request).status = 200 then (request.sent limits).toOption else live

def run (limits : Limits) (live : Option Index) : List Request → List Response
  | [] => []
  | request :: rest => respond limits live request :: run limits (next limits live request) rest

end Stateless

/-- The state of the service as its cache and its identities have to be: the live index is the one that is
remembered, its identity has been given out, and the rows that it can meet are its own. -/
structure State.Tracks (state : State) (live : Option Index) : Prop where
  index : state.live.map Prod.snd = live
  live_old : ∀ id index, state.live = some (id, index) → id < state.fresh
  owner_old : ∀ id, state.cache.owner = .held id → id < state.fresh
  rows : ∀ id index, state.live = some (id, index) → state.cache.Serves (.held id) ⟨index, none⟩

theorem tracks_initial : State.initial.Tracks none where
  index := rfl
  live_old _ _ h := by cases h
  owner_old _ h := by cases h
  rows _ _ h := by cases h

/-- A new index gets an identity that no row at hand has. -/
theorem tracks_replace (state : State) (live : Option Index) (ht : state.Tracks live)
    (index : Index) : (state.replace index).Tracks (some index) where
  index := rfl
  live_old id other h := by
    cases h
    exact Nat.lt_succ_self _
  owner_old id h := Nat.lt_succ_of_lt (ht.owner_old id h)
  rows id other h hsame := by
    cases h
    -- the rows at hand belong to an identity given out before, so they are never met
    have howner := (Owner.eq_of_same _ _ hsame).1
    exact absurd (ht.owner_old _ howner) (Nat.lt_irrefl _)

theorem seen_ofCompletion (request : Request) (events : List Event)
    (result : Except CompletionFault (Option Completion)) :
    (Response.ofCompletion request events result).seen =
      (Response.ofCompletion request [] result).seen := by
  rcases result with fault | _ | c
  · rfl
  · rfl
  · simp only [Response.ofCompletion]
    split_ifs <;> rfl

section Held

variable (cache : Cache) (id : Nat) (index : Index) (hc : cache.Serves (.held id) ⟨index, none⟩)

theorem held_steady : (Subject.held id ⟨index, none⟩).Steady := by
  intro source hsource
  cases hsource
  exact Source.steady_of_no_hook index

include hc

theorem serves_suits : cache.Suits (.held id ⟨index, none⟩) := by
  intro source hsource
  cases hsource
  exact hc

/-- The engine of the service completes as `complete` does without a cache, under whatever identity. -/
theorem engine_result (query : Query) (limit : Json) :
    (Engine.complete {} cache (.held id ⟨index, none⟩) [] query limit).result =
      (QueryHints.complete (.held 0 ⟨index, none⟩) [] query limit none).result := by
  have hh := Engine.complete_heard {} cache (.held id ⟨index, none⟩) [] query limit
    (held_steady id index) (serves_suits cache id index hc)
  have hresult := congrArg Heard.result hh
  cases limit <;> exact hresult

end Held

theorem tracks_left_by (state : State) (live : Option Index) (ht : state.Tracks live) (id : Nat)
    (index : Index) (hl : state.live = some (id, index)) (after : Cache)
    (ha : state.cache.LeftBy (.held id ⟨index, none⟩) after) :
    State.Tracks { state with cache := after } live := by
  rcases ha with rfl | ⟨source, hsource, howner, hrows⟩
  · exact ht
  · cases hsource
    refine ⟨ht.index, ht.live_old, ?_, ?_⟩
    · intro other ho
      have he : Owner.held other = Owner.held id := ho.symm.trans howner
      cases he
      exact ht.live_old id index hl
    · intro other second ho _
      have he : some (other, second) = some (id, index) := ho.symm.trans hl
      cases he
      exact hrows

section Equations

variable (limits : Limits) (state : State) (request : Request)

theorem complete_eq : complete limits state request =
    match request.asked limits with
    | .error refusal => (state, refusal)
    | .ok (query, limit) => completeLive state request query limit := by
  unfold complete Request.asked
  rcases request.body.value? with _ | v
  · rfl
  cases v with
  | object body =>
    simp only []
    cases Json.Fields.get body "token" with
    | object token =>
      simp only []
      rcases readQuery limits token body with fault | ⟨query, limit⟩
      · simp only []
        split_ifs <;> rfl
      · simp only []
        split_ifs <;> rfl
    | _ => rfl
  | _ => rfl

theorem putIndex_eq : putIndex limits state request =
    match request.sent limits with
    | .error refusal => (state, refusal)
    | .ok index => (state.replace index,
        ⟨200, some (.object [("ok", .bool true), ("idents", .int index.idents.length)]),
          [.indexReplaced]⟩) := by
  unfold putIndex Request.sent
  rcases request.body.value? with _ | v
  · rfl
  rcases hv : Index.ofJson limits v with fault | index
  · simp only [hv, Except.mapError]
    split_ifs <;> rfl
  · simp only [hv, Except.mapError]

theorem sent_refusal_status (refusal : Response) (hr : request.sent limits = .error refusal) :
    refusal.status ≠ 200 := by
  have hcrash : (Response.crash request []).status ≠ 200 := (by decide : 500 ≠ 200)
  have hbad (message : String) : (Response.bad message).status ≠ 200 := (by decide : 400 ≠ 200)
  revert hr
  unfold Request.sent
  rcases request.body.value? with _ | v
  · intro hr
    exact Except.error.inj hr ▸ hcrash
  · simp only []
    rcases Index.ofJson limits v with fault | index
    · intro hr
      rw [← Except.error.inj hr]
      dsimp only
      split_ifs
      · exact hbad _
      · exact hcrash
    · intro hr
      cases hr

/-- Putting an index succeeds exactly when the request sends one. -/
theorem putIndex_status :
    (Stateless.putIndex limits request).status = 200 ↔ ∃ index, request.sent limits = .ok index := by
  unfold Stateless.putIndex
  rcases hr : request.sent limits with refusal | index
  · have hn := sent_refusal_status limits request refusal hr
    simp [hn]
  · simp

end Equations

section Simulation

variable (limits : Limits) (state : State) (live : Option Index) (ht : state.Tracks live) (request : Request)

include ht

omit limits in
/-- A completion with the live index is seen as one without a cache. -/
theorem completeLive_simulates (query : Query) (limit : Option Int) :
    (completeLive state request query limit).2.seen =
        (Stateless.completeLive live request query limit).seen ∧
      (completeLive state request query limit).1.Tracks live := by
  have hindex := ht.index
  rcases hl : state.live with _ | ⟨id, index⟩
  · rw [hl] at hindex
    subst hindex
    simp only [completeLive, Stateless.completeLive, hl, Option.map_none, true_and]
    exact ht
  · have hc := ht.rows id index hl
    have hk := Engine.complete_cache_left_by {} state.cache (.held id ⟨index, none⟩) [] query
      (match limit with | some n => .int n | none => .null) (held_steady id index)
      (serves_suits state.cache id index hc)
    have hkept := tracks_left_by state live ht id index hl _ hk
    rw [hl] at hindex hkept
    subst hindex
    simp only [completeLive, Stateless.completeLive, hl, Option.map_some]
    refine ⟨?_, hkept⟩
    rw [seen_ofCompletion]
    exact congrArg (fun result => (Response.ofCompletion request [] result).seen)
      (engine_result state.cache id index hc query _)

theorem complete_simulates :
    (complete limits state request).2.seen = (Stateless.complete limits live request).seen ∧
      (complete limits state request).1.Tracks live := by
  rw [complete_eq]
  unfold Stateless.complete
  rcases request.asked limits with refusal | ⟨query, limit⟩
  · exact ⟨rfl, ht⟩
  · exact completeLive_simulates state live ht request query limit

/-- An index is put in place in both services or in neither. -/
theorem putIndex_simulates :
    (putIndex limits state request).2.seen = (Stateless.putIndex limits request).seen ∧
      (putIndex limits state request).1.Tracks
        (if (Stateless.putIndex limits request).status = 200 then (request.sent limits).toOption else live) := by
  rw [putIndex_eq]
  rcases hr : request.sent limits with refusal | index
  · have hn : ¬ (Stateless.putIndex limits request).status = 200 := by simp [putIndex_status, hr]
    rw [if_neg hn]
    simp only [Stateless.putIndex, hr, true_and]
    exact ht
  · have hy : (Stateless.putIndex limits request).status = 200 := by simp [putIndex_status, hr]
    rw [if_pos hy]
    simp only [Stateless.putIndex, hr]
    exact ⟨rfl, tracks_replace state live ht index⟩

omit ht in
/-- A request that does not reach the place where an index is put leaves the index alone. -/
theorem next_of_not_puts (hp : request.putsIndex = false) : Stateless.next limits live request = live := by
  simp [Stateless.next, hp]

/-- One request: the same response is seen, and the same index is remembered. -/
theorem handle_simulates :
    (handle limits state request).2.seen = (Stateless.respond limits live request).seen ∧
      (handle limits state request).1.Tracks (Stateless.next limits live request) := by
  by_cases hindex : request.found = .route .index
  · have hrespond : Stateless.respond limits live request = Stateless.putIndex limits request := by
      simp only [Stateless.respond, hindex]
    have hnext : Stateless.next limits live request =
        if (Stateless.putIndex limits request).status = 200 then (request.sent limits).toOption else live := by
      simp [Stateless.next, Request.putsIndex, hindex, hrespond]
    rw [hrespond, hnext, handle, hindex]
    exact putIndex_simulates limits state live ht request
  · have hp : request.putsIndex = false := by simp [Request.putsIndex, hindex]
    rw [next_of_not_puts limits live request hp]
    cases hfound : request.found with
    | other status =>
      simp only [handle, Stateless.respond, hfound, true_and]
      exact ht
    | route route =>
      simp only [handle, Stateless.respond, hfound]
      cases route with
      | complete => exact complete_simulates limits state live ht request
      | index => exact absurd hfound hindex
      | health =>
        refine ⟨?_, ht⟩
        have hlive : state.live.isSome = live.isSome := by rw [← ht.index, Option.isSome_map]
        simp only [health, Stateless.health, hlive]

/-- So whole runs are seen alike. -/
theorem run_simulates (requests : List Request) :
    (run limits state requests).map (fun reached => reached.2.seen) =
      (Stateless.run limits live requests).map Response.seen := by
  induction requests generalizing state live with
  | nil => rfl
  | cons request rest ih =>
    obtain ⟨hseen, hnext⟩ := handle_simulates limits state live ht request
    simp only [run, Stateless.run, List.map_cons, hseen, ih _ _ hnext]

end Simulation

def answers (limits : Limits) (requests : List Request) : List (Nat × Option Json) :=
  (run limits .initial requests).map fun reached => reached.2.seen

namespace Stateless

variable (limits : Limits)

theorem length_run (live : Option Index) (requests : List Request) :
    (run limits live requests).length = requests.length := by
  induction requests generalizing live with
  | nil => rfl
  | cons request rest ih => simp only [run, List.length_cons, ih]

theorem run_append (live : Option Index) (before after : List Request) :
    run limits live (before ++ after) =
      run limits live before ++ run limits (before.foldl (next limits) live) after := by
  induction before generalizing live with
  | nil => rfl
  | cons request rest ih => simp only [run, List.cons_append, List.foldl_cons, ih]

theorem drop_run (live : Option Index) (before after : List Request) :
    (run limits live (before ++ after)).drop before.length =
      run limits (before.foldl (next limits) live) after := by
  rw [run_append, List.drop_left' (length_run limits live before)]

theorem getElem?_run (live : Option Index) (before : List Request) (request : Request)
    (after : List Request) :
    (run limits live (before ++ request :: after))[before.length]? =
      some (respond limits (before.foldl (next limits) live) request) := by
  rw [run_append, List.getElem?_append_right (Nat.le_of_eq (length_run limits live before)), length_run,
    Nat.sub_self]
  rfl

theorem drop_run_cons (live : Option Index) (before : List Request) (request : Request)
    (after : List Request) :
    (run limits live (before ++ request :: after)).drop (before.length + 1) =
      run limits (next limits (before.foldl (next limits) live) request) after := by
  have hd := drop_run limits live (before ++ [request]) after
  simpa only [List.append_assoc, List.singleton_append, List.length_append, List.length_singleton,
    List.foldl_append, List.foldl_cons, List.foldl_nil] using hd

/-- A request that fails leaves the index as it was. -/
theorem next_of_failure (live : Option Index) (request : Request)
    (hs : (respond limits live request).status ≠ 200) : next limits live request = live := by
  simp [next, hs]

/-- Whether an index is put does not depend on the index before. -/
theorem next_of_success (live other : Option Index) (request : Request)
    (hp : request.putsIndex = true) (hs : (respond limits live request).status = 200) :
    next limits live request = next limits other request := by
  have hrespond (any : Option Index) : respond limits any request = putIndex limits request := by
    simp only [Request.putsIndex, decide_eq_true_eq] at hp
    simp only [respond, hp]
  rw [hrespond] at hs
  simp [next, hrespond, hp, hs]

end Stateless

/-- The service refines one whose only memory is the index of the last request that put one with success
and which completes without a cache: every response has the same status and body. So a request that is not
answered with success changes no later response, and once an index has been put it does not matter what
was asked and put before. -/
theorem service_refines_stateless (limits : Limits) :
    (∀ requests, answers limits requests = (Stateless.run limits none requests).map Response.seen) ∧
    (∀ before request after,
      ((answers limits (before ++ request :: after))[before.length]?.map Prod.fst ≠ some 200) →
      (answers limits (before ++ request :: after)).drop (before.length + 1) =
        (answers limits (before ++ after)).drop before.length) ∧
    (∀ before other put after, put.putsIndex = true →
      (answers limits (before ++ put :: after))[before.length]?.map Prod.fst = some 200 →
      (answers limits (before ++ put :: after)).drop (before.length + 1) =
        (answers limits (other ++ put :: after)).drop (other.length + 1)) := by
  have hanswers (requests : List Request) :
      answers limits requests = (Stateless.run limits none requests).map Response.seen :=
    run_simulates limits .initial none tracks_initial requests
  have hstatus (before : List Request) (request : Request) (after : List Request) :
      (answers limits (before ++ request :: after))[before.length]?.map Prod.fst =
        some (Stateless.respond limits (before.foldl (Stateless.next limits) none) request).status := by
    rw [hanswers, List.getElem?_map, Stateless.getElem?_run]
    rfl
  refine ⟨hanswers, ?_, ?_⟩
  · intro before request after hs
    rw [hstatus, ne_eq, Option.some.injEq] at hs
    rw [hanswers, hanswers, ← List.map_drop, ← List.map_drop, Stateless.drop_run_cons,
      Stateless.drop_run, Stateless.next_of_failure _ _ _ hs]
  · intro before other put after hp hs
    rw [hstatus, Option.some.injEq] at hs
    rw [hanswers, hanswers, ← List.map_drop, ← List.map_drop, Stateless.drop_run_cons,
      Stateless.drop_run_cons,
      Stateless.next_of_success _ _ (other.foldl (Stateless.next limits) none) put hp hs]

def identQuestion : Request :=
  ⟨"POST", "/api/complete", .route .complete,
    .json (.object [("token", .object [("state", .object [("mode", .text "ident")])])])⟩

def putting (v : Json) : Request :=
  ⟨"PUT", "/api/index", .route .index, .json v⟩

def identIndex (ident : String) : Request :=
  putting (.object [("index-io", .list []), ("idents", .list [.text ident])])

/-- An index that is no object is refused between two questions, and one that replaces another makes the
first one count for nothing. -/
theorem service_refines_stateless_replacing :
    ((answers (.ofDepth 9) [identIndex "a", identQuestion, putting (.int 1), identQuestion])[2]?.map
      Prod.fst ≠ some 200 ∧
      (answers (.ofDepth 9) [identIndex "a", identQuestion, putting (.int 1), identQuestion]).drop 3 =
        (answers (.ofDepth 9) [identIndex "a", identQuestion, identQuestion]).drop 2) ∧
    ((identIndex "b").putsIndex = true ∧
      (answers (.ofDepth 9) [identIndex "a", identQuestion, identIndex "b", identQuestion])[2]?.map
        Prod.fst = some 200 ∧
      (answers (.ofDepth 9) [identIndex "a", identQuestion, identIndex "b", identQuestion]).drop 3 =
        (answers (.ofDepth 9) [identIndex "b", identQuestion]).drop 1) := by
  have hrefused : (answers (.ofDepth 9) [identIndex "a", identQuestion, putting (.int 1),
      identQuestion])[2]?.map Prod.fst ≠ some 200 := by decide +kernel
  have hput : (identIndex "b").putsIndex = true := by decide
  have haccepted : (answers (.ofDepth 9) [identIndex "a", identQuestion, identIndex "b",
      identQuestion])[2]?.map Prod.fst = some 200 := by decide +kernel
  obtain ⟨_, hfailure, hsuccess⟩ := service_refines_stateless (.ofDepth 9)
  exact ⟨⟨hrefused, hfailure [identIndex "a", identQuestion] _ [identQuestion] hrefused⟩,
    hput, haccepted,
    hsuccess [identIndex "a", identQuestion] [] (identIndex "b") [identQuestion] hput haccepted⟩

end QueryHints.Service
