import Mathlib.Tactic.SplitIfs
import QueryHints.Engine

namespace QueryHints

def Source.Steady (source : Source) : Prop :=
  ∀ hook ∈ source.hook, ∀ earlier later path, hook.answer earlier path = hook.answer later path

/-- With a steady source it does not matter what its hook was called with before. -/
theorem Source.explore_steady (source : Source) (hs : source.Steady) (earlier later : List Path)
    (context : Context) : source.explore earlier context = source.explore later context := by
  cases context with
  | ident => rfl
  | attributes path =>
    cases hk : source.hook with
    | none => simp only [explore, hk]
    | some hook =>
      have he := hs hook hk earlier later (path.filter fun key => !Key.isPlaceholder key)
      simp only [explore, hk, he]

theorem Source.steady_of_no_hook (index : Index) : Source.Steady ⟨index, none⟩ := by
  intro hook hk
  cases hk

def Source.Gives (source : Source) (context : Context) (names : Names) : Prop :=
  source.index.isWellFormed = true ∧ (source.explore [] context).found = .ok names

def Cache.RowsOf (cache : Cache) (source : Source) : Prop :=
  ∀ context names, cache.get? context = some names → source.Gives context names

theorem Cache.rowsOf_of_no_rows (cache : Cache) (source : Source) (hr : cache.rows = []) :
    cache.RowsOf source := by
  intro context names hg
  simp [get?, hr] at hg

/-- Putting a row that is right leaves all rows right. -/
theorem Cache.rowsOf_put (cache : Cache) (source : Source) (context : Context) (names : Names)
    (hc : cache.RowsOf source) (hn : source.Gives context names) :
    (cache.put context names).RowsOf source := by
  intro other found hg
  rw [get?_put] at hg
  split_ifs at hg with he
  · cases hg
    exact he ▸ hn
  · exact hc other found hg

/-- Only identities are ever the same. A passing owner is not even the same as itself. -/
theorem Owner.eq_of_same (a b : Owner) (hs : a.same b = true) : a = b ∧ a ≠ .passing := by
  simpa [same] using hs

def Cache.Serves (cache : Cache) (owner : Owner) (source : Source) : Prop :=
  cache.owner.same owner = true → cache.RowsOf source

/-- A cache bound to its owner has that owner, and no rows but those of the source. -/
theorem Cache.bind_serves (cache : Cache) (owner : Owner) (source : Source)
    (hc : cache.Serves owner source) :
    (cache.bind owner).owner = owner ∧ (cache.bind owner).RowsOf source := by
  unfold bind
  split_ifs with hs
  · exact ⟨(Owner.eq_of_same _ _ hs).1, hc hs⟩
  · exact ⟨rfl, rowsOf_of_no_rows _ _ rfl⟩

def Discovered.told (d : Discovered) : Names × Option DiscoveryFault :=
  (d.found, d.fault)

namespace Source

section Equations

variable (source : Source) (owner : Owner) (earlier : List Path) (context : Context) (cache : Cache)

theorem discover_malformed (hw : source.index.isWellFormed = false) (cache : Option Cache) :
    source.discover owner earlier context cache = .nothing cache := by
  simp [discover, hw]

/-- A row at hand is the answer, and no hook is called. -/
theorem discover_hit (hw : source.index.isWellFormed = true) (names : Names)
    (hg : (cache.bind owner).get? context = some names) :
    source.discover owner earlier context (some cache) =
      ⟨names, some (cache.bind owner), none, none, cache.dropCount owner⟩ := by
  simp [discover, hw, hg]

/-- A row that is missing is explored and, if nothing fails, put. -/
theorem discover_miss (hw : source.index.isWellFormed = true)
    (hg : (cache.bind owner).get? context = none) :
    source.discover owner earlier context (some cache) =
      match (source.explore earlier context).found with
      | .ok names => ⟨names, some ((cache.bind owner).put context names),
          (source.explore earlier context).called, none, cache.dropCount owner⟩
      | .error fault => ⟨[], some (cache.bind owner),
          (source.explore earlier context).called, some fault, cache.dropCount owner⟩ := by
  cases hn : (source.explore earlier context).found <;> simp [discover, hw, hg, hn]

theorem discover_uncached (hw : source.index.isWellFormed = true) :
    source.discover owner earlier context none =
      match (source.explore earlier context).found with
      | .ok names => ⟨names, none, (source.explore earlier context).called, none, 0⟩
      | .error fault => ⟨[], none, (source.explore earlier context).called, some fault, 0⟩ := by
  cases hn : (source.explore earlier context).found <;> simp [discover, hw, hn]

end Equations

theorem discover_steady (source : Source) (hs : source.Steady) (owner : Owner)
    (earlier later : List Path) (context : Context) (cache : Option Cache) :
    source.discover owner earlier context cache = source.discover owner later context cache := by
  unfold discover
  rw [source.explore_steady hs earlier later]

/-- The cache makes no difference to what is found and to what fails. -/
theorem discover_cached (source : Source) (owner : Owner) (context : Context) (cache : Cache)
    (hc : cache.Serves owner source) :
    (source.discover owner [] context (some cache)).told =
      (source.discover owner [] context none).told := by
  cases hw : source.index.isWellFormed with
  | false => simp only [discover_malformed, hw, Discovered.nothing, Discovered.told]
  | true =>
    rw [source.discover_uncached owner [] context hw]
    cases hg : (cache.bind owner).get? context with
    | some names =>
      have hn := ((cache.bind_serves owner source hc).2 context names hg).2
      rw [source.discover_hit owner [] context cache hw names hg, hn]
      rfl
    | none =>
      rw [source.discover_miss owner [] context cache hw hg]
      cases (source.explore [] context).found <;> rfl

/-- A discovery leaves the cache alone, or bound to the owner with rows of the source only. -/
theorem discover_keeps_rows (source : Source) (owner : Owner) (context : Context)
    (cache : Cache) (hc : cache.Serves owner source) :
    ∃ after, (source.discover owner [] context (some cache)).cache = some after ∧
      (after = cache ∨ after.owner = owner ∧ after.RowsOf source) := by
  obtain ⟨ho, hb⟩ := cache.bind_serves owner source hc
  cases hw : source.index.isWellFormed with
  | false =>
    rw [source.discover_malformed owner [] context hw]
    exact ⟨cache, rfl, Or.inl rfl⟩
  | true =>
    cases hg : (cache.bind owner).get? context with
    | some names =>
      rw [source.discover_hit owner [] context cache hw names hg]
      exact ⟨cache.bind owner, rfl, Or.inr ⟨ho, hb⟩⟩
    | none =>
      rw [source.discover_miss owner [] context cache hw hg]
      cases hn : (source.explore [] context).found with
      | error fault => exact ⟨cache.bind owner, rfl, Or.inr ⟨ho, hb⟩⟩
      | ok names =>
        have hp := (cache.bind owner).rowsOf_put source context names hb ⟨hw, hn⟩
        exact ⟨(cache.bind owner).put context names, rfl, Or.inr ⟨ho, hp⟩⟩

end Source

def Subject.Steady (subject : Subject) : Prop :=
  ∀ source, subject.source = .ok (some source) → source.Steady

def Cache.Suits (cache : Cache) (subject : Subject) : Prop :=
  ∀ source, subject.source = .ok (some source) → cache.Serves subject.owner source

/-- What a subject may leave of a cache: the cache as it was, or one under its own name with rows of its
source only. -/
def Cache.LeftBy (before : Cache) (subject : Subject) (after : Cache) : Prop :=
  after = before ∨ ∃ source, subject.source = .ok (some source) ∧
    after.owner = subject.owner ∧ after.RowsOf source

theorem Source.discover_left_by (subject : Subject) (source : Source)
    (hs : subject.source = .ok (some source)) (context : Context) (cache : Cache)
    (hc : cache.Suits subject) :
    ∃ after, (source.discover subject.owner [] context (some cache)).cache = some after ∧
      cache.LeftBy subject after := by
  obtain ⟨after, ha, hk⟩ := source.discover_keeps_rows subject.owner context cache (hc source hs)
  rcases hk with hk | ⟨ho, hr⟩
  · exact ⟨after, ha, Or.inl hk⟩
  · exact ⟨after, ha, Or.inr ⟨source, hs, ho, hr⟩⟩

section Subjects

variable (subject : Subject) (cache : Cache)

theorem discover_subject_steady (hs : subject.Steady) (earlier later : List Path)
    (context : Option Context) (cache : Option Cache) :
    discover subject earlier context cache = discover subject later context cache := by
  cases context with
  | none => rfl
  | some context =>
    rcases hsource : subject.source with fault | _ | source
    · simp only [discover, hsource, Except.map]
    · simp only [discover, hsource, Except.map]
    · simp only [discover, hsource, Except.map,
        source.discover_steady (hs source hsource) subject.owner earlier later]

/-- What a caller is told does not depend on there being a cache. -/
theorem discover_subject_cached (hc : cache.Suits subject) (context : Option Context) :
    (discover subject [] context (some cache)).map Discovered.told =
      (discover subject [] context none).map Discovered.told := by
  cases context with
  | none => rfl
  | some context =>
    rcases hsource : subject.source with fault | _ | source
    · simp only [discover, hsource, Except.map]
    · simp only [discover, hsource, Except.map, Discovered.nothing, Discovered.told]
    · simp only [discover, hsource, Except.map,
        source.discover_cached subject.owner context cache (hc source hsource)]

/-- A discovery leaves the cache as it was, or under the name of its subject with rows that are right. -/
theorem discover_subject_left_by (hc : cache.Suits subject) (context : Option Context)
    (d : Discovered) (hd : discover subject [] context (some cache) = .ok d) :
    ∃ after, d.cache = some after ∧ cache.LeftBy subject after := by
  cases context with
  | none =>
    cases hd
    exact ⟨cache, rfl, Or.inl rfl⟩
  | some context =>
    rcases hsource : subject.source with fault | _ | source
    · simp [discover, hsource, Except.map] at hd
    · simp only [discover, hsource, Except.map, Except.ok.injEq] at hd
      exact ⟨cache, by rw [← hd]; rfl, Or.inl rfl⟩
    · simp only [discover, hsource, Except.map, Except.ok.injEq] at hd
      rw [← hd]
      exact Source.discover_left_by subject source hsource context cache hc

/-- A completion is settled without a discovery, or by one discovery in the subject's source. -/
theorem complete_cases (query : Query) (limit : Json) :
    (∃ result, ∀ earlier cache,
      complete subject earlier query limit cache = ⟨result, .nothing cache⟩) ∨
    (∃ source context bound, subject.source = .ok (some source) ∧ ∀ earlier cache,
      complete subject earlier query limit cache =
        ⟨query.answer bound source.index.ignored
          (source.discover subject.owner earlier context cache).found,
          source.discover subject.owner earlier context cache⟩) := by
  unfold complete
  rcases Limit.ofJson limit with fault | bound
  · exact Or.inl ⟨.error fault, fun _ _ => rfl⟩
  rcases hsource : subject.source with fault | _ | source
  · exact Or.inl ⟨.error (.index fault), fun _ _ => rfl⟩
  · exact Or.inl ⟨.ok none, fun _ _ => rfl⟩
  rcases hcontext : Context.ofToken? source.index query.token with _ | context
  · refine Or.inl ⟨query.answer bound source.index.ignored [], fun earlier cache => ?_⟩
    simp only [hcontext]
    rfl
  · refine Or.inr ⟨source, context, bound, rfl, fun earlier cache => ?_⟩
    simp only [hcontext]

theorem complete_steady (hs : subject.Steady) (earlier later : List Path) (query : Query)
    (limit : Json) (cache : Option Cache) :
    complete subject earlier query limit cache = complete subject later query limit cache := by
  rcases complete_cases subject query limit with ⟨result, he⟩ | ⟨source, context, bound, hsource, he⟩
  · rw [he, he]
  · rw [he, he, source.discover_steady (hs source hsource) subject.owner earlier later]

theorem complete_without_cache (earlier : List Path) (query : Query) (limit : Json) :
    (complete subject earlier query limit none).discovered.cache = none := by
  rcases complete_cases subject query limit with ⟨result, he⟩ | ⟨source, context, bound, _, he⟩
  · rw [he]
    rfl
  · rw [he]
    cases hw : source.index.isWellFormed with
    | false => rw [source.discover_malformed subject.owner earlier context hw]; rfl
    | true =>
      rw [source.discover_uncached subject.owner earlier context hw]
      cases (source.explore earlier context).found <;> rfl

/-- The cache makes no difference to a completion, nor to what failed on the way to it. -/
theorem complete_cached (hc : cache.Suits subject) (query : Query) (limit : Json) :
    (complete subject [] query limit (some cache)).result =
        (complete subject [] query limit none).result ∧
      (complete subject [] query limit (some cache)).discovered.fault =
        (complete subject [] query limit none).discovered.fault := by
  rcases complete_cases subject query limit with ⟨result, he⟩ | ⟨source, context, bound, hsource, he⟩
  · rw [he, he]
    exact ⟨rfl, rfl⟩
  · have ht := source.discover_cached subject.owner context cache (hc source hsource)
    have hfound := congrArg Prod.fst ht
    have hfault := congrArg Prod.snd ht
    simp only [Discovered.told] at hfound hfault
    rw [he, he]
    simp only [hfound, hfault, and_self]

/-- A completion leaves of the cache what its discovery leaves, and all of it where there is no discovery. -/
theorem complete_left_by (hc : cache.Suits subject) (query : Query) (limit : Json) :
    ∃ after, (complete subject [] query limit (some cache)).discovered.cache = some after ∧
      cache.LeftBy subject after := by
  rcases complete_cases subject query limit with ⟨result, he⟩ | ⟨source, context, bound, hsource, he⟩
  · rw [he]
    exact ⟨cache, rfl, Or.inl rfl⟩
  · rw [he]
    exact Source.discover_left_by subject source hsource context cache hc

end Subjects

def Event.isDrop : Event → Bool
  | .rowsDropped _ => true
  | _ => false

theorem Event.filter_ofDropped (count : Nat) :
    (ofDropped count).filter (fun event => !event.isDrop) = [] := by
  unfold ofDropped
  split_ifs <;> rfl

/-- What the caller of a step hears: the result, the failures reported to it, and the events that are not
about the cache. -/
structure Heard (α : Type) where
  result : Except CompletionFault α
  reported : List DiscoveryFault
  noted : List Event

namespace Engine

def Reply.heard (reply : Reply) : Heard (Option Completion) :=
  ⟨reply.result, reply.reported, reply.events.filter fun event => !event.isDrop⟩

def completeAlone (engine : Engine) (subject : Subject) (query : Query) (limit : Json) :
    Heard (Option Completion) :=
  let completed :=
    QueryHints.complete subject [] query (if limit.isNull then engine.limit else limit) none
  let faults := completed.discovered.fault.toList
  { result := completed.result
    reported := if engine.reports then faults else []
    noted := if engine.reports then [] else faults.map fun fault => .discoveryFailed fault.message }

variable (engine : Engine) (cache : Cache) (subject : Subject) (earlier : List Path)
  (query : Query) (limit : Json)

/-- The completion behind an engine's reply differs from the one without a cache only in the cache. -/
theorem complete_agrees (hs : subject.Steady) (hc : cache.Suits subject) (bound : Json) :
    (QueryHints.complete subject earlier query bound
        (if subject.isHeld then some cache else none)).result =
      (QueryHints.complete subject [] query bound none).result ∧
    (QueryHints.complete subject earlier query bound
        (if subject.isHeld then some cache else none)).discovered.fault =
      (QueryHints.complete subject [] query bound none).discovered.fault := by
  rw [complete_steady subject hs earlier []]
  split_ifs
  · exact complete_cached subject cache hc query bound
  · exact ⟨rfl, rfl⟩

/-- Through its cache an engine says what it would say without one. -/
theorem complete_heard (hs : subject.Steady) (hc : cache.Suits subject) :
    (engine.complete cache subject earlier query limit).heard =
      engine.completeAlone subject query limit := by
  obtain ⟨hresult, hfault⟩ := complete_agrees cache subject earlier query hs hc
    (if limit.isNull then engine.limit else limit)
  have hkept (faults : List DiscoveryFault) :
      (faults.map fun fault => Event.discoveryFailed fault.message).filter
        (fun event => !event.isDrop) = faults.map fun fault => .discoveryFailed fault.message := by
    rw [List.filter_eq_self]
    intro event he
    obtain ⟨fault, _, rfl⟩ := List.mem_map.mp he
    rfl
  simp only [complete, completeAlone, Reply.heard, hresult, hfault, Discovered.events,
    List.filter_append, Event.filter_ofDropped, List.nil_append]
  cases engine.reports with
  | true => rfl
  | false => simp only [Bool.false_eq_true, if_false, hkept]

/-- An engine hands in its cache or does without, and either way leaves what a subject may leave. -/
theorem complete_cache_left_by (hs : subject.Steady) (hc : cache.Suits subject) :
    cache.LeftBy subject (engine.complete cache subject earlier query limit).cache := by
  let bound := if limit.isNull then engine.limit else limit
  change cache.LeftBy subject ((QueryHints.complete subject earlier query bound
    (if subject.isHeld then some cache else none)).discovered.cache.getD cache)
  rw [complete_steady subject hs earlier []]
  cases subject.isHeld with
  | true =>
    obtain ⟨after, ha, hk⟩ := complete_left_by subject cache hc query bound
    rw [if_pos rfl, ha]
    exact hk
  | false =>
    rw [if_neg Bool.false_ne_true, complete_without_cache]
    exact Or.inl rfl

end Engine

end QueryHints
