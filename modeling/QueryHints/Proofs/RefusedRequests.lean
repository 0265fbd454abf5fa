import QueryHints.Proofs.CompletionTotality
import QueryHints.Proofs.StatelessService
import QueryHints.Proofs.TokenFaults

namespace QueryHints.Service

open Json (Fields)

def Request.asksCompletion (request : Request) : Bool :=
  request.found = .route .complete

def Request.SendsTexts (limits : Limits) (request : Request) : Prop :=
  request.putsIndex = true → ∀ index, request.sent limits = .ok index → index.idents.AllTexts

def State.index? (state : State) : Option Index :=
  state.live.map Prod.snd

def State.after (limits : Limits) (requests : List Request) : State :=
  requests.foldl (fun state request => (handle limits state request).1) .initial

structure State.HoldsTexts (state : State) : Prop where
  tracks : state.Tracks state.index?
  texts : ∀ index, state.index? = some index → index.idents.AllTexts

structure Request.Carries (request : Request) (body token : Fields) : Prop where
  value : request.body.value? = some (.object body)
  member : Fields.get body "token" = .object token

theorem Request.Carries.unique {request : Request} {body token body' token' : Fields}
    (h : request.Carries body token) (h' : request.Carries body' token') : body' = body ∧ token' = token := by
  have hbody := h'.value.symm.trans h.value
  cases hbody
  have htoken := h'.member.symm.trans h.member
  cases htoken
  exact ⟨rfl, rfl⟩

/-- The values in a request that are turned into whole numbers: those of the token, the cursor and the limit. -/
inductive Request.Converts (request : Request) : Json → Prop
  | token (body token : Fields) (v : Json) (carries : request.Carries body token)
      (converts : Token.Converts token v) : Converts request v
  | member (body token : Fields) (name : Text) (carries : request.Carries body token)
      (named : name = "cursor" ∨ name = "top_k") (given : (Fields.get body name).isNull = false) :
      Converts request (Fields.get body name)

def limitValue : Option Int → Json
  | some n => .int n
  | none => .null

def offered (index : Index) (query : Query) (limit : Option Int) :
    Except CompletionFault (Option Completion) :=
  (QueryHints.complete (.held 0 ⟨index, none⟩) [] query (limitValue limit) none).result

def isWritable (c : Completion) : Bool :=
  Numeral.isWritable c.replaceFrom && Numeral.isWritable c.replaceTo

inductive Breaks (limits : Limits) (live : Option Index) (request : Request) : Prop
  | nested (deep : request.body = .tooDeep)
  | infinite (body token : Fields) (v : Json) (carries : request.Carries body token)
      (stops : readQuery limits token body = .error (.whole .infinite)) (converts : request.Converts v)
      (unfit : v.isInfinite = true)
  | deepToken (body token : Fields) (fault : TokenFault) (carries : request.Carries body token)
      (stops : readQuery limits token body = .error fault) (deep : fault.fault = .depth)
      (beyond : Token.Beyond limits token)
  | unwritable (index : Index) (query : Query) (limit : Option Int) (c : Completion)
      (held : live = some index) (asked : request.asked limits = .ok (query, limit))
      (offers : offered index query limit = .ok (some c)) (long : isWritable c = false)

section Reachable

variable (limits : Limits)

theorem holdsTexts_initial : State.initial.HoldsTexts where
  tracks := tracks_initial
  texts _ h := by cases h

/-- One request: an index that takes the place of another lists texts as well. -/
theorem handle_holdsTexts (state : State) (h : state.HoldsTexts) (request : Request)
    (hr : request.SendsTexts limits) : (handle limits state request).1.HoldsTexts := by
  obtain ⟨-, hnext⟩ := handle_simulates limits state state.index? h.tracks request
  have hindex : (handle limits state request).1.index? = Stateless.next limits state.index? request := hnext.index
  refine ⟨by rwa [hindex], ?_⟩
  intro index hi
  rw [hindex, Stateless.next] at hi
  split at hi
  · next hput =>
    cases hs : request.sent limits with
    | error refusal =>
      rw [hs] at hi
      cases hi
    | ok sent =>
      rw [hs] at hi
      cases hi
      exact hr hput.1 index hs
  · exact h.texts index hi

/-- As long as requests send texts as idents, the index at hand has no others. -/
theorem after_holdsTexts (requests : List Request) (h : ∀ request ∈ requests, request.SendsTexts limits) :
    (State.after limits requests).HoldsTexts := by
  suffices hfold : ∀ state : State, state.HoldsTexts →
      (requests.foldl (fun state request => (handle limits state request).1) state).HoldsTexts from
    hfold .initial holdsTexts_initial
  induction requests with
  | nil => exact fun state hs => hs
  | cons request rest ih =>
    intro state hs
    apply ih (fun later hl => h later (List.mem_cons_of_mem request hl))
    exact handle_holdsTexts limits state hs request (h request List.mem_cons_self)

end Reachable

section Reading

theorem readWhole_eq_error (v : Json) (fault : TokenFault) (h : readWhole v = .error fault) :
    v.isNull = false ∧ ∃ reason, v.whole = .error reason ∧ fault = .whole reason := by
  unfold readWhole at h
  split at h
  · cases h
  · next hnull =>
    refine ⟨by simpa using hnull, ?_⟩
    cases hw : v.whole with
    | ok n =>
      rw [hw] at h
      cases h
    | error reason =>
      rw [hw] at h
      cases h
      exact ⟨reason, rfl, rfl⟩

theorem whole_of_readWhole (v : Json) (n : Option Int) (h : readWhole v = .ok n) (hn : v.isNull = false) :
    ∃ m, v.whole = .ok m := by
  cases hw : v.whole with
  | ok m => exact ⟨m, rfl⟩
  | error reason =>
    rw [readWhole, hn, hw] at h
    cases h

theorem isExpected_eq_false (fault : TokenFault) (h : isExpected fault.fault = false) :
    fault.fault ≠ .value ∧ fault.fault ≠ .kind := by
  constructor
  · intro hclass
    simp [hclass, isExpected] at h
  · intro hclass
    simp [hclass, isExpected] at h

variable (limits : Limits) (request : Request) (body token : Fields) (hc : request.Carries body token)

include hc

/-- What is not blamed on the sender is an infinite number that was to be converted, or a token that is too deep. -/
theorem unexpected_of_readQuery (fault : TokenFault) (h : readQuery limits token body = .error fault)
    (hclass : isExpected fault.fault = false) :
    (fault = .whole .infinite ∧ ∃ v, request.Converts v ∧ v.isInfinite = true) ∨
      fault.fault = .depth ∧ Token.Beyond limits token := by
  obtain ⟨hvalue, hkind⟩ := isExpected_eq_false fault hclass
  have hmember (name : Text) (named : name = "cursor" ∨ name = "top_k")
      (hread : readWhole (Fields.get body name) = .error fault) :
      fault = .whole .infinite ∧ ∃ v, request.Converts v ∧ v.isInfinite = true := by
    obtain ⟨hgiven, reason, hwhole, rfl⟩ := readWhole_eq_error _ _ hread
    rcases Json.fault_of_whole _ _ hwhole with hclass | ⟨hclass, -⟩ | ⟨rfl, hinfinite⟩
    · exact absurd hclass hvalue
    · exact absurd hclass hkind
    · exact ⟨rfl, _, .member body token name hc named hgiven, hinfinite⟩
  simp only [readQuery, bind_eq_error_iff, pure_ne_error, and_false, exists_false, or_false] at h
  rcases h with htoken | ⟨-, -, hcursor | ⟨-, -, hlimit⟩⟩
  · rcases Token.infinite_or_beyond limits token fault htoken hvalue hkind with
      ⟨hfault, v, hconverts, hinfinite⟩ | hbeyond
    · exact Or.inl ⟨hfault, v, .token body token v hc hconverts, hinfinite⟩
    · exact Or.inr hbeyond
  · exact Or.inl (hmember "cursor" (Or.inl rfl) hcursor)
  · exact Or.inl (hmember "top_k" (Or.inr rfl) hlimit)

/-- All that a query is read from is whole. -/
theorem whole_of_readQuery (asked : Query × Option Int) (h : readQuery limits token body = .ok asked) (v : Json)
    (hv : request.Converts v) : ∃ n, v.whole = .ok n := by
  simp only [readQuery, bind_eq_ok_iff, pure_eq_ok_iff] at h
  obtain ⟨read, htoken, cursor, hcursor, limit, hlimit, -⟩ := h
  cases hv with
  | token body' token' v carries converts =>
    obtain ⟨rfl, rfl⟩ := hc.unique carries
    exact Token.whole_of_converts limits _ read htoken v converts
  | member body' token' name carries named given =>
    obtain ⟨rfl, rfl⟩ := hc.unique carries
    rcases named with rfl | rfl
    · exact whole_of_readWhole _ cursor hcursor given
    · exact whole_of_readWhole _ limit hlimit given

end Reading

section Asking

variable (limits : Limits) (request : Request)

theorem asked_of_nested (h : request.body = .tooDeep) : request.asked limits = .error (.crash request []) := by
  simp only [Request.asked, h, Body.value?]

/-- A fault that is not the sender's breaks the request. -/
theorem asked_of_unexpected (body token : Fields) (hc : request.Carries body token) (fault : TokenFault)
    (h : readQuery limits token body = .error fault) (hclass : isExpected fault.fault = false) :
    request.asked limits = .error (.crash request []) := by
  simp only [Request.asked, hc.value, hc.member, h, hclass, Bool.false_eq_true, if_false]

/-- A refusal blames the sender, unless the request breaks. -/
theorem asked_eq_error (live : Option Index) (refusal : Response) (h : request.asked limits = .error refusal) :
    refusal.status = 400 ∨ refusal.status = 500 ∧ Breaks limits live request := by
  have hbad (message : String) : (Response.bad message).status = 400 := rfl
  have hcrash : (Response.crash request []).status = 500 := rfl
  unfold Request.asked at h
  split at h
  · next hvalue =>
    cases h
    have hdeep : request.body = .tooDeep := by
      cases hb : request.body with
      | tooDeep => rfl
      | absent | json _ => simp [hb, Body.value?] at hvalue
    exact Or.inr ⟨hcrash, .nested hdeep⟩
  · next body hvalue =>
    split at h
    · next token hmember =>
      have hcarries : request.Carries body token := ⟨hvalue, hmember⟩
      split at h
      · next fault hread =>
        cases h
        split
        · exact Or.inl (hbad _)
        · next hclass =>
          rcases unexpected_of_readQuery limits request body token hcarries fault hread (by simpa using hclass) with
            ⟨rfl, v, hconverts, hunfit⟩ | ⟨hdeep, hbeyond⟩
          · exact Or.inr ⟨hcrash, .infinite body token v hcarries hread hconverts hunfit⟩
          · exact Or.inr ⟨hcrash, .deepToken body token fault hcarries hread hdeep hbeyond⟩
      · split at h
        · cases h
          exact Or.inl (hbad _)
        · cases h
    · cases h
      exact Or.inl (hbad _)
  · cases h
    exact Or.inl (hbad _)

/-- What breaks before a completion is tried: the request is not answered, and nothing is asked. -/
theorem asked_of_breaks (live : Option Index) (hb : Breaks limits live request) :
    request.asked limits = .error (.crash request []) ∨
      ∃ index query limit c, live = some index ∧ request.asked limits = .ok (query, limit) ∧
        offered index query limit = .ok (some c) ∧ isWritable c = false := by
  cases hb with
  | nested deep => exact Or.inl (asked_of_nested limits request deep)
  | infinite body token v carries stops =>
    exact Or.inl (asked_of_unexpected limits request body token carries _ stops rfl)
  | deepToken body token fault carries stops deep =>
    exact Or.inl (asked_of_unexpected limits request body token carries fault stops (by rw [deep]; rfl))
  | unwritable index query limit c held asked offers long =>
    exact Or.inr ⟨index, query, limit, c, held, asked, offers, long⟩

/-- A limit that is not refused is at least one. -/
theorem asked_eq_ok (query : Query) (limit : Option Int) (h : request.asked limits = .ok (query, limit)) :
    ∃ body token, request.Carries body token ∧ readQuery limits token body = .ok (query, limit) ∧
      ∀ n, limit = some n → 1 ≤ n := by
  unfold Request.asked at h
  split at h
  · cases h
  · next body hbody =>
    split at h
    · next token htoken =>
      split at h
      · cases h
      · next query' limit' hread =>
        split at h
        · cases h
        · next hlimit =>
          cases h
          refine ⟨body, token, ⟨hbody, htoken⟩, hread, ?_⟩
          intro n hn
          subst hn
          simpa using hlimit
    · cases h
  · cases h

end Asking

section Answering

variable (limits : Limits) (request : Request)

omit limits in
/-- A completion that is there breaks its response only by a number that is too long. -/
theorem status_ofCompletion (answer : Option Completion) :
    (Response.ofCompletion request [] (.ok answer)).status = 200 ∧
        (∀ c, answer = some c → isWritable c = true) ∨
      (Response.ofCompletion request [] (.ok answer)).status = 500 ∧
        ∃ c, answer = some c ∧ isWritable c = false := by
  cases answer with
  | none => exact Or.inl ⟨rfl, fun c hc => nomatch hc⟩
  | some c =>
    have hresponse : Response.ofCompletion request [] (.ok (some c)) =
        if isWritable c then ⟨200, some c.toJson, []⟩ else .crash request [] := rfl
    rw [hresponse]
    cases hw : isWritable c with
    | true =>
      refine Or.inl ⟨rfl, ?_⟩
      intro other hother
      cases hother
      exact hw
    | false => exact Or.inr ⟨rfl, c, rfl, hw⟩

/-- Once a query has been read, only its answer can break. -/
theorem unwritable_of_breaks (live : Option Index) (query : Query) (limit : Option Int)
    (h : request.asked limits = .ok (query, limit)) (hb : Breaks limits live request) :
    ∃ index c, live = some index ∧ offered index query limit = .ok (some c) ∧ isWritable c = false := by
  rcases asked_of_breaks limits request live hb with hcrash | ⟨index, _, _, c, hheld, hasked, hoffers, hlong⟩
  · rw [hcrash] at h
    cases h
  · rw [h] at hasked
    cases hasked
    exact ⟨index, c, hheld, hoffers, hlong⟩

omit limits request in
/-- An index whose idents are texts completes whatever is asked with an allowed limit. -/
theorem offered_of_texts (index : Index) (hi : index.idents.AllTexts) (query : Query) (limit : Option Int)
    (hl : ∀ n, limit = some n → 1 ≤ n) : ∃ answer, offered index query limit = .ok answer := by
  have hallowed : limitValue limit = .null ∨ ∃ n : Int, 1 ≤ n ∧ limitValue limit = .int n := by
    cases limit with
    | none => exact Or.inl rfl
    | some n => exact Or.inr ⟨n, hl n rfl, rfl⟩
  have htexts : index.OffersTexts := Names.allTexts_without _ _ hi
  obtain ⟨answer, hanswer, -⟩ := answers_of_texts (.held 0 ⟨index, none⟩) ⟨index, none⟩ rfl [] query
    (limitValue limit) hallowed (fun _ _ => htexts)
  exact ⟨answer, hanswer⟩

theorem status_completeLive (live : Option Index) (hl : ∀ index, live = some index → index.idents.AllTexts)
    (query : Query) (limit : Option Int) (h : request.asked limits = .ok (query, limit)) :
    (Stateless.completeLive live request query limit).status = 200 ∧ ¬ Breaks limits live request ∨
      (Stateless.completeLive live request query limit).status = 500 ∧ Breaks limits live request := by
  obtain ⟨body, token, hcarries, hread, hlimit⟩ := asked_eq_ok limits request query limit h
  have hunwritable := unwritable_of_breaks limits request live query limit h
  cases live with
  | none =>
    refine Or.inl ⟨rfl, ?_⟩
    intro hb
    obtain ⟨index, c, hheld, -⟩ := hunwritable hb
    cases hheld
  | some index =>
    obtain ⟨answer, hanswer⟩ := offered_of_texts index (hl index rfl) query limit hlimit
    have hlive : Stateless.completeLive (some index) request query limit =
        .ofCompletion request [] (.ok answer) :=
      congrArg (Response.ofCompletion request []) hanswer
    rw [hlive]
    rcases status_ofCompletion request answer with ⟨hok, hwritable⟩ | ⟨hbroken, c, hsome, hlong⟩
    · refine Or.inl ⟨hok, ?_⟩
      intro hb
      obtain ⟨other, c, hheld, hoffered, hlong⟩ := hunwritable hb
      cases hheld
      rw [hanswer] at hoffered
      cases hoffered
      rw [hwritable c rfl] at hlong
      cases hlong
    · subst hsome
      exact Or.inr ⟨hbroken, .unwritable index query limit c rfl h hanswer hlong⟩

/-- A completion request is answered or refused, except where one of the listed values breaks it. -/
theorem status_complete (live : Option Index) (hl : ∀ index, live = some index → index.idents.AllTexts) :
    ((Stateless.complete limits live request).status = 200 ∨ (Stateless.complete limits live request).status = 400) ∧
        ¬ Breaks limits live request ∨
      (Stateless.complete limits live request).status = 500 ∧ Breaks limits live request := by
  cases h : request.asked limits with
  | error refusal =>
    simp only [Stateless.complete, h]
    rcases asked_eq_error limits request live refusal h with hrefused | hbroken
    · refine Or.inl ⟨Or.inr hrefused, ?_⟩
      intro hb
      rcases asked_of_breaks limits request live hb with hcrash | ⟨_, _, _, _, -, hasked, -⟩
      · rw [h, Except.error.injEq] at hcrash
        rw [hcrash] at hrefused
        cases hrefused
      · rw [h] at hasked
        cases hasked
    · exact Or.inr hbroken
  | ok asked =>
    obtain ⟨query, limit⟩ := asked
    simp only [Stateless.complete, h]
    rcases status_completeLive limits request live hl query limit h with ⟨hok, hb⟩ | hbroken
    · exact Or.inl ⟨Or.inl hok, hb⟩
    · exact Or.inr hbroken

theorem handle_completion (state : State) (hr : request.asksCompletion = true) :
    handle limits state request = complete limits state request := by
  simp only [Request.asksCompletion, decide_eq_true_eq] at hr
  simp only [handle, hr]

/-- No completion is made of an infinite number. -/
theorem asked_of_converts_infinite (v : Json) (hv : request.Converts v) (hi : v.isInfinite = true) :
    ∃ refusal, request.asked limits = .error refusal := by
  cases h : request.asked limits with
  | error refusal => exact ⟨refusal, rfl⟩
  | ok asked =>
    obtain ⟨query, limit⟩ := asked
    obtain ⟨body, token, hcarries, hread, -⟩ := asked_eq_ok limits request query limit h
    obtain ⟨n, hn⟩ := whole_of_readQuery limits request body token hcarries _ hread v hv
    rw [v.whole_of_infinite hi] at hn
    cases hn

end Answering

/-- A completion request is answered with 200 or 400 or breaks with 500, in every state that requests which put
no idents but texts lead to. It breaks exactly if its body or something in the token is nested too deep, if reading
the query stops at an infinite number, or if what is offered has a place too long to be written. An infinite number
that is to be converted is never answered with success, whatever stands before it, and as the start of a token it
always breaks the request, unless the text of the token is refused. -/
theorem completion_breaks_only_beyond_limits (limits : Limits) (before : List Request)
    (hb : ∀ request ∈ before, request.SendsTexts limits) (request : Request) (hr : request.asksCompletion = true) :
    let state := State.after limits before
    let status := (handle limits state request).2.status
    (status = 200 ∨ status = 400 ∨ status = 500) ∧ (status = 500 ↔ Breaks limits state.index? request) ∧
      (∀ v, request.Converts v → v.isInfinite = true → status ≠ 200) ∧
      (∀ body token length text, request.Carries body token →
        Token.lengthOf (Token.textOf token) = .ok length →
        Token.readText limits (Token.textOf token) = .ok text →
        (Token.startOf token).isInfinite = true → status = 500) := by
  intro state status
  have hholds := after_holdsTexts limits before hb
  have hstatus : status = (Stateless.complete limits state.index? request).status := by
    have hhandle : status = (complete limits state request).2.status := by
      rw [← handle_completion limits request state hr]
    have hseen := (complete_simulates limits state state.index? hholds.tracks request).1
    exact hhandle.trans (congrArg Prod.fst hseen)
  have hcases := status_complete limits request state.index? hholds.texts
  rw [← hstatus] at hcases
  have hbreaks : status = 500 ↔ Breaks limits state.index? request := by
    rcases hcases with ⟨hfine, hnot⟩ | ⟨hbroken, hbreaks⟩
    · have hne : status ≠ 500 := by omega
      exact ⟨fun h => absurd h hne, fun h => absurd h hnot⟩
    · exact ⟨fun _ => hbreaks, fun _ => hbroken⟩
  refine ⟨by omega, hbreaks, ?_, ?_⟩
  · intro v hv hi
    obtain ⟨refusal, hrefusal⟩ := asked_of_converts_infinite limits request v hv hi
    have hrefused : status = refusal.status := by rw [hstatus, Stateless.complete, hrefusal]
    have hcode := asked_eq_error limits request state.index? refusal hrefusal
    omega
  · intro body token length text hcarries hlength htext hstart
    have hread : readQuery limits token body = .error (.whole .infinite) := by
      rw [readQuery, Token.ofFields_of_infinite_start limits token length text hlength htext hstart]
      rfl
    apply hbreaks.mpr
    exact .infinite body token _ hcarries hread (.token body token _ hcarries .start) hstart

def infiniteQuestion : Request :=
  ⟨"POST", "/api/complete", .route .complete,
    .json (.object [("token", .object [("start", .real (.infinite false))])])⟩

/-- On a service that has an index with one ident, a question for idents is answered with success, so nothing
breaks it; one with an infinite start breaks. -/
theorem completion_breaks_only_beyond_limits_ident :
    (∀ request ∈ [identIndex "a"], request.SendsTexts (.ofDepth 9)) ∧
      (identQuestion.asksCompletion = true ∧
        ¬ Breaks (.ofDepth 9) (State.after (.ofDepth 9) [identIndex "a"]).index? identQuestion) ∧
      infiniteQuestion.asksCompletion = true ∧
        Breaks (.ofDepth 9) (State.after (.ofDepth 9) [identIndex "a"]).index? infiniteQuestion := by
  have hsends : ∀ request ∈ [identIndex "a"], request.SendsTexts (.ofDepth 9) := by
    intro request hmem
    rw [List.mem_singleton.mp hmem]
    intro _ index hi
    cases hi
    exact Names.allTexts_map ["a"]
  have hasks : identQuestion.asksCompletion = true := by decide
  have hanswered : (handle (.ofDepth 9) (State.after (.ofDepth 9) [identIndex "a"]) identQuestion).2.status =
      200 := by decide +kernel
  have hinfinite : infiniteQuestion.asksCompletion = true := by decide
  have hbroken : (handle (.ofDepth 9) (State.after (.ofDepth 9) [identIndex "a"]) infiniteQuestion).2.status =
      500 := by decide +kernel
  obtain ⟨-, hbreaks, -⟩ := completion_breaks_only_beyond_limits (.ofDepth 9) _ hsends _ hasks
  refine ⟨hsends, ⟨hasks, fun h => ?_⟩, hinfinite, ?_⟩
  · rw [hbreaks.mpr h] at hanswered
    cases hanswered
  · exact (completion_breaks_only_beyond_limits (.ofDepth 9) _ hsends _ hinfinite).2.1.mp hbroken

/-- A service without an index breaks on it. -/
theorem infinite_start_breaks : (handle (.ofDepth 9) .initial infiniteQuestion).2.status = 500 := by
  decide +kernel

end QueryHints.Service
