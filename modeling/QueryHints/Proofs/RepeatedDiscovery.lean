import QueryHints.Proofs.SessionTransparency

namespace QueryHints

structure Cache.Keeps (cache : Cache) (place : Nat) (context : Context) (names : Names) : Prop where
  owner : cache.owner = .held place
  row : cache.get? context = some names

section Rows

variable (cache : Cache) (place : Nat) (context : Context) (names : Names) (source : Source) (earlier : List Path)

theorem Cache.owner_bind (owner : Owner) : (cache.bind owner).owner = owner := by
  unfold Cache.bind
  split_ifs with hs
  · exact (Owner.eq_of_same _ _ hs).1
  · rfl

theorem Cache.same_of_owner (ho : cache.owner = .held place) : cache.owner.same (.held place) = true := by
  simp [ho, Owner.same]

/-- Binding a cache to the owner it has changes nothing. -/
theorem Cache.bind_of_owner (ho : cache.owner = .held place) : cache.bind (.held place) = cache := by
  rw [Cache.bind, if_pos (cache.same_of_owner place ho)]

/-- A row is found again: the cache stays as it is, nothing is called, and nothing fails. -/
theorem Source.discover_of_row (hw : source.index.isWellFormed = true) (hk : cache.Keeps place context names) :
    source.discover (.held place) earlier context (some cache) = ⟨names, some cache, none, none, 0⟩ := by
  have hbind := cache.bind_of_owner place hk.owner
  have hdrop : cache.dropCount (.held place) = 0 := by
    rw [Cache.dropCount, if_pos (cache.same_of_owner place hk.owner)]
  rw [source.discover_hit _ earlier context cache hw names (by rw [hbind]; exact hk.row), hbind, hdrop]

/-- A discovery for the owner keeps its rows, also those for other contexts. -/
theorem Source.discover_keeps_row (hk : cache.Keeps place context names) (other : Context) :
    ∃ after, (source.discover (.held place) earlier other (some cache)).cache = some after ∧
      after.Keeps place context names := by
  have hbind := cache.bind_of_owner place hk.owner
  cases hw : source.index.isWellFormed with
  | false =>
    rw [source.discover_malformed _ earlier other hw]
    exact ⟨cache, rfl, hk⟩
  | true =>
    cases hg : cache.get? other with
    | some found =>
      rw [source.discover_of_row cache place other found earlier hw ⟨hk.owner, hg⟩]
      exact ⟨cache, rfl, hk⟩
    | none =>
      rw [source.discover_miss _ earlier other cache hw (by rw [hbind]; exact hg), hbind]
      cases (source.explore earlier other).found with
      | error fault => exact ⟨cache, rfl, hk⟩
      | ok found =>
        have hne : other ≠ context := by
          rintro rfl
          rw [hk.row] at hg
          cases hg
        refine ⟨cache.put other found, rfl, hk.owner, ?_⟩
        rw [Cache.get?_put, if_neg hne]
        exact hk.row

/-- A discovery that does not fail leaves its row. -/
theorem Source.discover_leaves_row (hw : source.index.isWellFormed = true)
    (hf : (source.discover (.held place) earlier context (some cache)).fault = none) :
    ∃ after, (source.discover (.held place) earlier context (some cache)).cache = some after ∧
      after.Keeps place context (source.discover (.held place) earlier context (some cache)).found := by
  have howner := cache.owner_bind (.held place)
  cases hg : (cache.bind (.held place)).get? context with
  | some names =>
    rw [source.discover_hit _ earlier context cache hw names hg]
    exact ⟨_, rfl, howner, hg⟩
  | none =>
    rw [source.discover_miss _ earlier context cache hw hg] at hf ⊢
    cases hn : (source.explore earlier context).found with
    | error fault =>
      rw [hn] at hf
      cases hf
    | ok names =>
      refine ⟨_, rfl, howner, ?_⟩
      rw [Cache.get?_put, if_pos rfl]

end Rows

namespace Session

structure Lookup where
  slot : Nat
  place : Nat
  context : Context
  deriving DecidableEq

def Shelf.usable? (shelf : Shelf) (place : Nat) : Option Source :=
  match (shelf.subject place).source with
  | .ok (some source) => if source.index.isWellFormed then some source else none
  | _ => none

def Seat.limit (seat : Seat) (limit : Json) : Except CompletionFault Limit :=
  Limit.ofJson (if limit.isNull then seat.engine.limit else limit)

/-- The discovery behind a completion. A plain value is never looked up in the cache, and a limit that is refused ends
the completion before. -/
def Seat.lookup? (seat : Seat) (shelf : Shelf) (place : Nat) (query : Query) (limit : Json) : Option Lookup :=
  match shelf place, seat.limit limit with
  | .source source, .ok _ =>
    if source.index.isWellFormed then
      (Context.ofToken? source.index query.token).map fun context => ⟨seat.slot, place, context⟩
    else none
  | _, _ => none

/-- An engine has nothing to look up for a token: what stands at the place is a plain value or has no usable rules, or
the token has no context there. -/
def Shelf.Idle (shelf : Shelf) (place : Nat) (token : Token) : Prop :=
  (∃ limits value, shelf place = .value limits value) ∨ shelf.usable? place = none ∨
    ∃ source, shelf place = .source source ∧ Context.ofToken? source.index token = none

namespace Step

def lookup? (shelf : Shelf) : Step → Option Lookup
  | .complete seat place query limit => seat.lookup? shelf place query limit
  | .hint seat place token cursor => seat.lookup? shelf place (Editor.hintQuery token cursor) .null
  | .discover slot place context _ =>
    if (shelf.usable? place).isSome then context.map fun context => ⟨slot, place, context⟩ else none
  | _ => none

def binds? (shelf : Shelf) (slot : Nat) : Step → Option Nat
  | .bind bound place => if bound = slot then some place else none
  | s => (s.lookup? shelf).bind fun lookup => if lookup.slot = slot then some lookup.place else none

def clears (slot : Nat) : Step → Bool
  | .reset seat => seat.slot = slot
  | .clear cleared => cleared = slot
  | _ => false

/-- A step neither clears a cache nor binds it to any object but the one at a place, and it is no client's writing. -/
structure Spares (shelf : Shelf) (slot place : Nat) (s : Step) : Prop where
  not_put : s.isPut = false
  not_clears : s.clears slot = false
  binds : ∀ other ∈ s.binds? shelf slot, other = place

instance (shelf : Shelf) (slot place : Nat) (s : Step) : Decidable (s.Spares shelf slot place) :=
  decidable_of_iff
    (s.isPut = false ∧ s.clears slot = false ∧ ∀ other ∈ s.binds? shelf slot, other = place)
    ⟨fun h => ⟨h.1, h.2.1, h.2.2⟩, fun h => ⟨h.not_put, h.not_clears, h.binds⟩⟩

def Idle (shelf : Shelf) : Step → Prop
  | .complete _ place query _ => shelf.Idle place query.token
  | .hint _ place token _ => shelf.Idle place token
  | .discover _ place context _ => context = none ∨ shelf.usable? place = none
  | _ => False

def resultFrom (source : Source) (names : Names) : Step → Except CompletionFault Answer
  | .complete seat _ query limit =>
    (seat.limit limit).bind fun bound => (query.answer bound source.index.ignored names).map .completion
  | .hint seat _ token cursor =>
    (seat.limit .null).bind fun bound =>
      ((Editor.hintQuery token cursor).answer bound source.index.ignored names).map fun completion =>
        .hint (completion.map (Editor.hintList cursor))
  | _ => .ok (.names (some names))

def reports : Step → Bool
  | .complete seat .. => seat.engine.reports
  | .hint seat .. => seat.engine.reports
  | .discover _ _ _ reports => reports
  | _ => false

def note : Step → DiscoveryFault → Event
  | .discover .., _ => .candidatesFailed
  | _, fault => .discoveryFailed fault.message

def outcomeFrom (s : Step) (source : Source) (place : Nat) (d : Discovered) : Outcome where
  result := s.resultFrom source d.found
  called := d.called.map fun path => (place, path)
  reported := if s.reports then d.fault.toList else []
  events := d.events ++ (if s.reports then [] else d.fault.toList.map s.note)

end Step

structure Outcome.Unfailing (outcome : Outcome) : Prop where
  unreported : outcome.reported = []
  unnoted : ∀ event ∈ outcome.events, event.isDrop = true

namespace Lookup

variable (l : Lookup) (shelf : Shelf) (state : State) (source : Source)

def discovered : Discovered :=
  source.discover (shelf.subject l.place).owner (state.asked l.place) l.context (some (state.caches l.slot))

def next : State :=
  (state.setCache l.slot ((l.discovered shelf state source).cache.getD (state.caches l.slot))).noteCall l.place
    (l.discovered shelf state source).called

end Lookup

section Lookups

variable (shelf : Shelf) (state : State) (seat : Seat) (place : Nat) (query : Query) (limit : Json)

theorem usable?_eq_some_iff (source : Source) :
    shelf.usable? place = some source ↔
      (shelf.subject place).source = .ok (some source) ∧ source.index.isWellFormed = true := by
  unfold Shelf.usable?
  rcases hs : (shelf.subject place).source with fault | _ | known
  · simp
  · simp
  · simp only [Except.ok.injEq, Option.some.injEq]
    split_ifs with hw
    · simp only [Option.some.injEq]
      exact ⟨fun h => ⟨h, h ▸ hw⟩, And.left⟩
    · simp only [false_iff, not_and]
      rintro rfl
      exact hw

theorem source_of_lookup (l : Lookup) (hl : seat.lookup? shelf place query limit = some l) :
    ∃ source bound context, shelf place = .source source ∧ seat.limit limit = .ok bound ∧
      source.index.isWellFormed = true ∧ Context.ofToken? source.index query.token = some context ∧
      l = ⟨seat.slot, place, context⟩ := by
  unfold Seat.lookup? at hl
  split at hl
  · next source bound hp hlimit =>
    split_ifs at hl with hw
    obtain ⟨context, hcontext, rfl⟩ := Option.map_eq_some_iff.mp hl
    exact ⟨source, bound, context, hp, hlimit, hw, hcontext, rfl⟩
  · cases hl

/-- A completion that looks something up goes as its discovery goes. -/
theorem completeAt_of_lookup (l : Lookup) (hl : seat.lookup? shelf place query limit = some l) :
    ∃ source, shelf.usable? l.place = some source ∧ ∀ form,
      completeAt shelf state seat place query limit form =
        (l.next shelf state source,
          { result := (seat.limit limit).bind fun bound =>
              (query.answer bound source.index.ignored (l.discovered shelf state source).found).map form
            called := (l.discovered shelf state source).called.map fun path => (l.place, path)
            reported := if seat.engine.reports then (l.discovered shelf state source).fault.toList else []
            events := (l.discovered shelf state source).events ++ (if seat.engine.reports then []
              else (l.discovered shelf state source).fault.toList.map fun fault =>
                .discoveryFailed fault.message) }) := by
  obtain ⟨source, bound, context, hp, hlimit, hw, hcontext, rfl⟩ := source_of_lookup shelf seat place query limit l hl
  have hsubject := subject_of_source shelf place source hp
  refine ⟨source, ?_, ?_⟩
  · rw [usable?_eq_some_iff, hsubject]
    exact ⟨rfl, hw⟩
  · intro form
    have hcomplete : QueryHints.complete (.held place source) (state.asked place) query
        (if limit.isNull then seat.engine.limit else limit) (some (state.caches seat.slot)) =
        ⟨query.answer bound source.index.ignored (source.discover (.held place) (state.asked place) context
          (some (state.caches seat.slot))).found, source.discover (.held place) (state.asked place) context
          (some (state.caches seat.slot))⟩ := by
      rw [Seat.limit] at hlimit
      simp only [QueryHints.complete, hlimit, Subject.source, hcontext, Subject.owner]
    simp only [completeAt, Engine.complete, hsubject, Subject.isHeld, if_true, hcomplete, Lookup.next,
      Lookup.discovered, hlimit, Subject.owner]
    rfl

/-- A step with a discovery makes that discovery: everything it leaves and says follows from it. -/
theorem step_of_lookup (s : Step) (l : Lookup) (hl : s.lookup? shelf = some l) :
    ∃ source, shelf.usable? l.place = some source ∧
      step shelf state s =
        (l.next shelf state source, s.outcomeFrom source l.place (l.discovered shelf state source)) := by
  cases s with
  | complete seat place query limit =>
    obtain ⟨source, hsource, hstep⟩ := completeAt_of_lookup shelf state seat place query limit l hl
    exact ⟨source, hsource, hstep _⟩
  | hint seat place token cursor =>
    obtain ⟨source, hsource, hstep⟩ := completeAt_of_lookup shelf state seat place _ _ l hl
    exact ⟨source, hsource, hstep _⟩
  | discover slot place context reports =>
    simp only [Step.lookup?] at hl
    split_ifs at hl with hu
    obtain ⟨source, hsource⟩ := Option.isSome_iff_exists.mp hu
    obtain ⟨context, rfl, rfl⟩ := Option.map_eq_some_iff.mp hl
    refine ⟨source, hsource, ?_⟩
    simp only [step, QueryHints.discover, ((usable?_eq_some_iff _ _ _).mp hsource).1, Except.map]
    rfl
  | _ => cases hl

theorem caches_setCache_self (slot : Nat) : (state.setCache slot (state.caches slot)).caches = state.caches := by
  funext other
  by_cases ho : other = slot
  · simp only [State.setCache, ho, if_true]
  · simp only [State.setCache, ho, if_false]

theorem completeAt_of_no_lookup (form : Option Completion → Answer)
    (hl : seat.lookup? shelf place query limit = none) :
    (completeAt shelf state seat place query limit form).1.caches = state.caches := by
  have hcache : (seat.engine.complete (state.caches seat.slot) (shelf.subject place) (state.asked place) query
      limit).cache = state.caches seat.slot := by
    cases hp : shelf place with
    | value limits value =>
      simp only [Engine.complete, subject_of_value shelf place limits value hp, Subject.isHeld,
        Bool.false_eq_true, if_false, complete_without_cache, Option.getD_none]
    | source source =>
      simp only [Engine.complete, subject_of_source shelf place source hp, Subject.isHeld, if_true]
      simp only [Seat.lookup?, hp, Seat.limit] at hl
      unfold QueryHints.complete
      cases hlimit : Limit.ofJson (if limit.isNull then seat.engine.limit else limit) with
      | error fault => rfl
      | ok bound =>
        simp only [hlimit, Subject.source] at hl ⊢
        cases hcontext : Context.ofToken? source.index query.token with
        | none => rfl
        | some context =>
          cases hw : source.index.isWellFormed with
          | false =>
            simp only [source.discover_malformed _ _ context hw]
            rfl
          | true => simp [hw, hcontext] at hl
  rw [completeAt, hcache, caches_noteCall, caches_setCache_self]

theorem discover_of_unusable (hu : shelf.usable? place = none) (earlier : List Path) (context : Context)
    (cache : Option Cache) :
    (∃ fault, QueryHints.discover (shelf.subject place) earlier (some context) cache = .error fault) ∨
      QueryHints.discover (shelf.subject place) earlier (some context) cache = .ok (.nothing cache) := by
  rcases hsource : (shelf.subject place).source with fault | _ | source
  · left
    simp only [QueryHints.discover, hsource, Except.map]
    exact ⟨fault, rfl⟩
  · right
    simp only [QueryHints.discover, hsource, Except.map]
  · right
    have hw : source.index.isWellFormed = false := by
      by_contra hw
      simp [Shelf.usable?, hsource, hw] at hu
    simp only [QueryHints.discover, hsource, Except.map, source.discover_malformed _ _ context hw]

/-- A step that asks for something without a discovery leaves all caches as they are. -/
theorem caches_of_no_lookup (s : Step) (hs : (s.alone? shelf).isSome = true) (hl : s.lookup? shelf = none) :
    (step shelf state s).1.caches = state.caches := by
  cases s with
  | complete seat place query limit => exact completeAt_of_no_lookup shelf state seat place query limit _ hl
  | hint seat place token cursor => exact completeAt_of_no_lookup shelf state seat place _ _ _ hl
  | discover slot place context reports =>
    have hnothing : (∃ fault, QueryHints.discover (shelf.subject place) (state.asked place) context
          (some (state.caches slot)) = .error fault) ∨
        QueryHints.discover (shelf.subject place) (state.asked place) context (some (state.caches slot)) =
          .ok (.nothing (some (state.caches slot))) := by
      cases context with
      | none => exact Or.inr rfl
      | some context =>
        apply discover_of_unusable
        simpa [Step.lookup?] using hl
    rcases hnothing with ⟨fault, hd⟩ | hd
    · simp only [step, hd]
    · simp only [step, hd, caches_noteCall]
      exact caches_setCache_self state slot
  | _ => cases hs

theorem lookup?_of_idle (s : Step) (hs : s.Idle shelf) : s.lookup? shelf = none := by
  have hseat (seat : Seat) (place : Nat) (query : Query) (limit : Json) (hi : shelf.Idle place query.token) :
      seat.lookup? shelf place query limit = none := by
    by_contra hl
    obtain ⟨l, hl⟩ := Option.ne_none_iff_exists'.mp hl
    obtain ⟨source, bound, context, hp, -, hw, hcontext, -⟩ := source_of_lookup shelf seat place query limit l hl
    rcases hi with ⟨limits, value, hvalue⟩ | hu | ⟨known, hknown, hnone⟩
    · rw [hp] at hvalue
      cases hvalue
    · have hsome : shelf.usable? place = some source := by
        rw [usable?_eq_some_iff, subject_of_source shelf place source hp]
        exact ⟨rfl, hw⟩
      rw [hu] at hsome
      cases hsome
    · rw [hp] at hknown
      cases hknown
      rw [hcontext] at hnone
      cases hnone
  cases s with
  | complete seat place query limit => exact hseat seat place query limit hs
  | hint seat place token cursor => exact hseat seat place (Editor.hintQuery token cursor) .null hs
  | discover slot place context reports =>
    rcases hs with rfl | hu
    · simp [Step.lookup?]
    · simp [Step.lookup?, hu]
  | _ => exact hs.elim

/-- Idle steps leave every cache as it is. -/
theorem caches_of_idle (s : Step) (hs : s.Idle shelf) : (step shelf state s).1.caches = state.caches := by
  have hl := lookup?_of_idle shelf s hs
  cases s with
  | complete seat place query limit => exact caches_of_no_lookup shelf state _ rfl hl
  | hint seat place token cursor => exact caches_of_no_lookup shelf state _ rfl hl
  | discover slot place context reports => exact caches_of_no_lookup shelf state _ rfl hl
  | _ => exact hs.elim

theorem fault_of_unfailing (s : Step) (source : Source) (d : Discovered)
    (h : (s.outcomeFrom source place d).Unfailing) : d.fault = none := by
  cases hf : d.fault with
  | none => rfl
  | some fault =>
    exfalso
    cases hr : s.reports with
    | true =>
      have hreported := h.unreported
      simp [Step.outcomeFrom, hr, hf] at hreported
    | false =>
      have hnoted := h.unnoted (s.note fault) (by simp [Step.outcomeFrom, hr, hf])
      cases s <;> cases hnoted

end Lookups

section Keeping

variable (shelf : Shelf) (state : State) (slot place : Nat) (context : Context) (names : Names) (source : Source)

/-- A lookup changes no cache but its own. -/
theorem caches_next (l : Lookup) :
    (l.next shelf state source).caches slot =
      if slot = l.slot then (l.discovered shelf state source).cache.getD (state.caches l.slot)
      else state.caches slot := by
  rw [Lookup.next, caches_noteCall]
  rfl

/-- A lookup binds its cache to the place that it asks. -/
theorem binds?_of_lookup (s : Step) (l : Lookup) (hl : s.lookup? shelf = some l) :
    s.binds? shelf l.slot = some l.place := by
  cases s with
  | complete seat place query limit => simp [Step.binds?, hl]
  | hint seat place token cursor => simp [Step.binds?, hl]
  | discover slot place context reports => simp [Step.binds?, hl]
  | _ => cases hl

/-- What a step can do to a cache, unless a client writes to it: leave it alone, empty it, bind it, or make a discovery
through it. -/
theorem cache_of_step (s : Step) (hput : s.isPut = false) :
    (step shelf state s).1.caches slot = state.caches slot ∨
    (s.clears slot = true ∧ (step shelf state s).1.caches slot = .empty) ∨
    (∃ place, s = .bind slot place ∧
      (step shelf state s).1.caches slot = (state.caches slot).bind (shelf.owner place)) ∨
    ∃ l source, s.lookup? shelf = some l ∧ l.slot = slot ∧
      (step shelf state s).1.caches slot = (l.discovered shelf state source).cache.getD (state.caches slot) := by
  have hset (changed : Nat) (cache : Cache) :
      (state.setCache changed cache).caches slot = state.caches slot ∨
        changed = slot ∧ (state.setCache changed cache).caches slot = cache := by
    by_cases hslot : slot = changed
    · exact Or.inr ⟨hslot.symm, if_pos hslot⟩
    · exact Or.inl (if_neg hslot)
  cases hl : s.lookup? shelf with
  | some l =>
    obtain ⟨source, -, hstep⟩ := step_of_lookup shelf state s l hl
    rw [hstep, Lookup.next, caches_noteCall]
    rcases hset l.slot ((l.discovered shelf state source).cache.getD (state.caches l.slot)) with hsame | ⟨rfl, hfound⟩
    · exact Or.inl hsame
    · exact Or.inr (Or.inr (Or.inr ⟨l, source, rfl, rfl, hfound⟩))
  | none =>
    cases s with
    | complete seat place query limit => exact Or.inl (congrFun (caches_of_no_lookup shelf state _ rfl hl) slot)
    | hint seat place token cursor => exact Or.inl (congrFun (caches_of_no_lookup shelf state _ rfl hl) slot)
    | discover other place context reports => exact Or.inl (congrFun (caches_of_no_lookup shelf state _ rfl hl) slot)
    | reset seat =>
      rcases hset seat.slot .empty with hsame | ⟨hslot, hempty⟩
      · exact Or.inl hsame
      · exact Or.inr (Or.inl ⟨decide_eq_true hslot, hempty⟩)
    | clear cleared =>
      rcases hset cleared .empty with hsame | ⟨hslot, hempty⟩
      · exact Or.inl hsame
      · exact Or.inr (Or.inl ⟨decide_eq_true hslot, hempty⟩)
    | bind bound place =>
      rcases hset bound ((state.caches bound).bind (shelf.owner place)) with hsame | ⟨rfl, hbound⟩
      · exact Or.inl hsame
      · exact Or.inr (Or.inr (Or.inl ⟨place, rfl, hbound⟩))
    | get other context => exact Or.inl rfl
    | put other context names => cases hput

variable (hp : shelf place = .source source)

include hp

theorem owner_of_source : (shelf.subject place).owner = .held place := by
  rw [subject_of_source shelf place source hp]
  rfl

theorem usable_of_source (known : Source) (hk : shelf.usable? place = some known) :
    known = source ∧ source.index.isWellFormed = true := by
  obtain ⟨hsource, hw⟩ := (usable?_eq_some_iff shelf place known).mp hk
  rw [subject_of_source shelf place source hp] at hsource
  cases hsource
  exact ⟨rfl, hw⟩

/-- A row survives every step that spares its cache. -/
theorem step_keeps_row (hk : (state.caches slot).Keeps place context names) (s : Step)
    (hs : s.Spares shelf slot place) : ((step shelf state s).1.caches slot).Keeps place context names := by
  rcases cache_of_step shelf state slot s hs.not_put with
    hsame | ⟨hclears, -⟩ | ⟨other, rfl, hbound⟩ | ⟨l, known, hl, rfl, hfound⟩
  · rwa [hsame]
  · rw [hs.not_clears] at hclears
    cases hclears
  · have hplace := hs.binds other (by simp [Step.binds?])
    have howner : shelf.owner other = .held place := by
      rw [hplace, Shelf.owner, hp]
    rwa [hbound, howner, Cache.bind_of_owner _ place hk.owner]
  · -- through this cache only its owner is asked
    have hplace := hs.binds _ (binds?_of_lookup shelf s l hl)
    obtain ⟨after, hafter, hkept⟩ := known.discover_keeps_row _ place context names (state.asked place) hk l.context
    rw [hfound, Lookup.discovered, hplace, owner_of_source shelf place source hp, hafter]
    exact hkept

/-- What is found in a row is found without a call and without a failure. -/
theorem step_of_row (hk : (state.caches slot).Keeps place context names) (s : Step)
    (hl : s.lookup? shelf = some ⟨slot, place, context⟩) :
    (step shelf state s).2 = ⟨s.resultFrom source names, none, [], []⟩ := by
  obtain ⟨known, hknown, hstep⟩ := step_of_lookup shelf state s _ hl
  obtain ⟨rfl, hw⟩ := usable_of_source shelf place source hp known hknown
  have hfound := known.discover_of_row _ place context names (state.asked place) hw hk
  rw [hstep, Lookup.discovered, owner_of_source shelf place known hp, hfound]
  cases hr : s.reports <;> simp [Step.outcomeFrom, hr, Discovered.events, Event.ofDropped]

/-- A discovery without a failure leaves the row of what it found. -/
theorem row_of_step (s : Step) (hl : s.lookup? shelf = some ⟨slot, place, context⟩)
    (hok : (step shelf state s).2.Unfailing) :
    ∃ names, (step shelf state s).2.result = s.resultFrom source names ∧
      ((step shelf state s).1.caches slot).Keeps place context names := by
  obtain ⟨known, hknown, hstep⟩ := step_of_lookup shelf state s _ hl
  obtain ⟨rfl, hw⟩ := usable_of_source shelf place source hp known hknown
  rw [hstep] at hok ⊢
  have hfault := fault_of_unfailing place s known _ hok
  rw [Lookup.discovered, owner_of_source shelf place known hp] at hfault
  obtain ⟨after, hafter, hkept⟩ := known.discover_leaves_row _ place context (state.asked place) hw hfault
  refine ⟨_, rfl, ?_⟩
  rw [caches_next, if_pos rfl, Lookup.discovered, owner_of_source shelf place known hp, hafter]
  exact hkept

/-- As long as every step spares the cache, each discovery for the context is answered from the row. -/
theorem run_of_row (hk : (state.caches slot).Keeps place context names) (steps : List Step)
    (hs : ∀ s ∈ steps, s.Spares shelf slot place) :
    List.Forall₂ (fun s reached => s.lookup? shelf = some ⟨slot, place, context⟩ →
      reached.2 = ⟨s.resultFrom source names, none, [], []⟩) steps (run shelf state steps) := by
  -- on the steps, for every state that has the row: only that is known of the state behind the first one
  induction steps generalizing state with
  | nil => exact List.Forall₂.nil
  | cons s rest ih =>
    have hnext := step_keeps_row shelf state slot place context names source hp hk s (hs s List.mem_cons_self)
    refine List.Forall₂.cons (step_of_row shelf state slot place context names source hp hk s) ?_
    exact ih _ hnext fun t ht => hs t (List.mem_cons_of_mem s ht)

end Keeping

/-- Successful discoveries are made once. Once a step has discovered something for a context, directly or for a
completion, each later step that asks the same source for it through the same cache gets the same names, calls no hook
and hears of no failure, until the cache is cleared or bound to another object. Steps with nothing to look up leave
every cache as it is. -/
theorem discovery_made_once (shelf : Shelf) :
    (∀ state slot place context source first, shelf place = .source source →
      first.lookup? shelf = some ⟨slot, place, context⟩ → (step shelf state first).2.Unfailing →
      ∃ names, (step shelf state first).2.result = first.resultFrom source names ∧
        ((step shelf state first).1.caches slot).get? context = some names ∧
        ∀ rest, (∀ s ∈ rest, s.Spares shelf slot place) →
          List.Forall₂ (fun s reached => s.lookup? shelf = some ⟨slot, place, context⟩ →
            reached.2 = ⟨s.resultFrom source names, none, [], []⟩)
            rest (run shelf (step shelf state first).1 rest)) ∧
    ∀ state s, s.Idle shelf → (step shelf state s).1.caches = state.caches := by
  constructor
  · intro state slot place context source first hp hfirst hok
    obtain ⟨names, hresult, hkept⟩ := row_of_step shelf state slot place context source hp first hfirst hok
    refine ⟨names, hresult, hkept.row, ?_⟩
    intro rest hrest
    exact run_of_row shelf _ slot place context names source hp hkept rest hrest
  · intro state s hs
    exact caches_of_idle shelf state s hs

/-- The hook of this source answers its second call only, and has nothing to offer then. -/
def flakySource : Source :=
  ⟨⟨.table [], [.text "user/id"], []⟩, some ⟨fun earlier _ =>
    if earlier.length = 1 then .ok (.list []) else .error ⟨"RuntimeError", "hook failed"⟩, 9⟩⟩

def flakyShelf : Shelf
  | 0 => .source flakySource
  | 1 => .source ⟨⟨.unusable (.int 1), [], []⟩, none⟩
  | _ => .value (.ofDepth 9) (.object [("index-io", .list [])])

def rootDiscovery : Step := .discover 0 0 (some (.attributes [])) true

def flakyState : State := (step flakyShelf .initial rootDiscovery).1

/-- Other contexts, one of them with a failure, another cache, steps with nothing to look up and a binding to the same
source, before the root is asked for again, by a client and by an engine. -/
def sparingSteps : List Step :=
  let token : Token := ⟨":us", 0, 3, .atom, []⟩
  [.discover 0 0 (some .ident) true, .discover 0 0 (some (.attributes ["a"])) false, .discover 1 2 (some .ident) true,
    .complete ⟨{}, 0⟩ 2 ⟨token, [], none⟩ .null, .discover 0 1 (some .ident) true, .discover 0 0 none true, .clear 1,
    .bind 0 0, rootDiscovery, .complete ⟨{}, 0⟩ 0 ⟨token, [], none⟩ (.int 1)]

/-- Nothing was found, and nothing is found again without asking. -/
theorem discovery_made_once_flaky :
    flakyShelf 0 = .source flakySource ∧ rootDiscovery.lookup? flakyShelf = some ⟨0, 0, .attributes []⟩ ∧
    (step flakyShelf flakyState rootDiscovery).2.Unfailing ∧ (∀ s ∈ sparingSteps, s.Spares flakyShelf 0 0) ∧
    (List.Forall₂ (fun s reached => s.lookup? flakyShelf = some ⟨0, 0, .attributes []⟩ →
      reached.2 = ⟨s.resultFrom flakySource [], none, [], []⟩)
      sparingSteps (run flakyShelf (step flakyShelf flakyState rootDiscovery).1 sparingSteps)) ∧
    (Step.discover 0 1 (some .ident) true).Idle flakyShelf ∧
    (step flakyShelf flakyState (.discover 0 1 (some .ident) true)).1.caches = flakyState.caches := by
  have hlookup : rootDiscovery.lookup? flakyShelf = some ⟨0, 0, .attributes []⟩ := by decide
  have hok : (step flakyShelf flakyState rootDiscovery).2.Unfailing := ⟨rfl, by decide⟩
  have hspares : ∀ s ∈ sparingSteps, s.Spares flakyShelf 0 0 := by decide +kernel
  have hidle : (Step.discover 0 1 (some .ident) true).Idle flakyShelf := Or.inr rfl
  obtain ⟨honce, hleft⟩ := discovery_made_once flakyShelf
  obtain ⟨names, hresult, -, hrest⟩ := honce flakyState 0 0 _ flakySource rootDiscovery rfl hlookup hok
  have hnames : names = [] := by
    cases hresult
    rfl
  subst hnames
  exact ⟨rfl, hlookup, hok, hspares, hrest sparingSteps hspares, hidle, hleft flakyState _ hidle⟩

end Session

end QueryHints
