import QueryHints.Proofs.ExpandedKeys
import QueryHints.Proofs.RepeatedDiscovery
import QueryHints.Proofs.ShownValues

namespace QueryHints

def Cache.Lacks (cache : Cache) (place : Nat) (context : Context) : Prop :=
  ∀ names, ¬ cache.Keeps place context names

namespace Source

/-- Why the answer of a hook offers nothing: an error was raised, the answer is neither a text nor a list nor an
object, or it lists something that cannot be shown. -/
def failure? (room : Nat) : Except HookError Json → Option DiscoveryFault
  | .error error => some (.raised error)
  | .ok (.list items) => (items.findSome? (Json.showFault? room)).map .unshown
  | .ok (.text _) | .ok (.object _) => none
  | .ok v => some (.notCollection v.kind)

section Offering

variable (room : Nat) (answer : Except HookError Json)

theorem offered_of_failure (fault : DiscoveryFault) (h : failure? room answer = some fault) :
    offered room answer = .error fault := by
  rcases answer with error | v
  · cases h
    rfl
  · cases v with
    | list items =>
      obtain ⟨reason, hreason, rfl⟩ := Option.map_eq_some_iff.mp h
      have hshow : Json.showAll? room items = .error reason :=
        (Json.showAll?_eq_error_iff room items reason).mpr hreason
      rw [offered, keysOf, hshow]
      rfl
    | text _ | object _ => cases h
    | null | bool _ | int _ | real _ =>
      cases h
      rfl

/-- An answer that does not fail offers a set of names. -/
theorem offered_of_no_failure (h : failure? room answer = none) : ∃ names, offered room answer = .ok names := by
  rcases answer with error | v
  · cases h
  · cases v with
    | list items =>
      have hnone : items.findSome? (Json.showFault? room) = none := Option.map_eq_none_iff.mp h
      rw [offered, keysOf, Json.showAll?, hnone]
      exact ⟨_, rfl⟩
    | text s => exact ⟨_, rfl⟩
    | object fields => exact ⟨_, rfl⟩
    | null | bool _ | int _ | real _ => cases h

/-- A hook fails exactly if it raises an error, or if its answer is no collection, or if that lists something that
is too deep or has a number that is too long. -/
theorem failure?_eq_none_iff :
    failure? room answer = none ↔ ∃ v, answer = .ok v ∧
      (v.kind = .text ∨ v.kind = .object ∨ ∃ items, v = .list items ∧ ∀ item ∈ items, item.Showable room) := by
  rcases answer with error | v
  · simp [failure?]
  · cases v with
    | list items => simp [failure?, Json.kind, List.findSome?_eq_none_iff, Json.showFault?_eq_none_iff]
    | null | bool _ | int _ | real _ | text _ | object _ => simp [failure?, Json.kind]

/-- A list inside a list takes more room than one list. -/
example : failure? 1 (.ok (.list [.list [.null]])) = some (.unshown .nested) := rfl

end Offering

theorem explore_of_hook (source : Source) (hook : Hook) (hh : source.hook = some hook) (earlier : List Path)
    (path : Path) :
    source.explore earlier (.attributes path) =
      ⟨(offered hook.room (hook.answer earlier (plainPath path))).map fun names =>
        names.without source.index.ignored, some (plainPath path)⟩ := by
  simp only [explore, hh, plainPath]

end Source

section Missing

variable (cache : Cache) (place : Nat) (context : Context)

namespace Cache

/-- A row for a context that has none comes last. -/
theorem put_of_missing (names : Names) (hg : cache.get? context = none) :
    cache.put context names = ⟨cache.owner, cache.rows ++ [(context, names)]⟩ := by
  have hrows (rows : List (Context × Names)) (h : rows.lookup context = none) :
      setRow context names rows = rows ++ [(context, names)] := by
    induction rows with
    | nil => rfl
    | cons row rest ih =>
      obtain ⟨c, row⟩ := row
      by_cases hc : context = c
      · simp [hc] at h
      · have hb : (context == c) = false := beq_eq_false_iff_ne.mpr hc
        rw [List.lookup_cons, hb] at h
        rw [setRow, if_neg (Ne.symm hc), ih h]
        rfl
  rw [put, hrows cache.rows hg]

theorem lacks_empty : empty.Lacks place context := by
  intro names hk
  cases hk.owner

variable (hc : cache.Lacks place context)

include hc

theorem lacks_bind (owner : Owner) : (cache.bind owner).Lacks place context := by
  unfold bind
  split_ifs
  · exact hc
  · intro names hk
    cases hk.row

theorem get?_bind_of_lacks : (cache.bind (.held place)).get? context = none := by
  by_contra hg
  obtain ⟨names, hg⟩ := Option.ne_none_iff_exists'.mp hg
  exact cache.lacks_bind place context hc (.held place) names ⟨cache.owner_bind (.held place), hg⟩

/-- A row for another context is not the one that is missing. -/
theorem lacks_put (other : Context) (names : Names) (ho : cache.owner = .held place → other ≠ context) :
    (cache.put other names).Lacks place context := by
  intro known hk
  have howner : cache.owner = .held place := hk.owner
  have hrow := hk.row
  rw [get?_put, if_neg (ho howner)] at hrow
  exact hc known ⟨howner, hrow⟩

end Cache

/-- A discovery leaves rows of the place for other contexts only, and of other owners. -/
theorem Source.discover_lacks (source : Source) (owner : Owner) (earlier : List Path) (other : Context)
    (hc : cache.Lacks place context) (ho : owner = .held place → other ≠ context) :
    ((source.discover owner earlier other (some cache)).cache.getD cache).Lacks place context := by
  have hbound := cache.lacks_bind place context hc owner
  cases hw : source.index.isWellFormed with
  | false =>
    rw [source.discover_malformed owner earlier other hw]
    exact hc
  | true =>
    cases hg : (cache.bind owner).get? other with
    | some found =>
      rw [source.discover_hit owner earlier other cache hw found hg]
      exact hbound
    | none =>
      rw [source.discover_miss owner earlier other cache hw hg]
      cases (source.explore earlier other).found with
      | error fault => exact hbound
      | ok found =>
        refine (cache.bind owner).lacks_put place context hbound other found ?_
        rw [cache.owner_bind owner]
        exact ho

end Missing

namespace Session

def State.after (shelf : Shelf) (state : State) (steps : List Step) : State :=
  steps.foldl (fun state s => (step shelf state s).1) state

section Lacking

variable (shelf : Shelf) (state : State) (slot place : Nat) (context : Context)

theorem place_of_owner (other : Nat) (ho : (shelf.subject other).owner = .held place) : other = place := by
  cases hp : shelf other with
  | source source =>
    rw [subject_of_source shelf other source hp] at ho
    cases ho
    rfl
  | value limits value =>
    rw [subject_of_value shelf other limits value hp] at ho
    cases ho

/-- Nothing but a discovery for the context leaves a row for it. -/
theorem step_lacks (hc : (state.caches slot).Lacks place context) (s : Step) (hput : s.isPut = false)
    (hs : s.lookup? shelf ≠ some ⟨slot, place, context⟩) :
    ((step shelf state s).1.caches slot).Lacks place context := by
  rcases cache_of_step shelf state slot s hput with
    hsame | ⟨-, hempty⟩ | ⟨other, rfl, hbound⟩ | ⟨l, source, hl, rfl, hfound⟩
  · rwa [hsame]
  · rw [hempty]
    exact Cache.lacks_empty place context
  · rw [hbound]
    exact Cache.lacks_bind _ place context hc _
  · rw [hfound]
    refine Source.discover_lacks _ place context source _ _ _ hc ?_
    rintro howner rfl
    have hplace := place_of_owner shelf place l.place howner
    subst hplace
    exact hs hl

/-- A row stays missing as long as it is not looked up and no client writes. -/
theorem after_lacks (hc : (state.caches slot).Lacks place context) (steps : List Step)
    (hs : ∀ s ∈ steps, s.isPut = false ∧ s.lookup? shelf ≠ some ⟨slot, place, context⟩) :
    ((state.after shelf steps).caches slot).Lacks place context := by
  induction steps generalizing state with
  | nil => exact hc
  | cons s rest ih =>
    obtain ⟨hput, hother⟩ := hs s List.mem_cons_self
    exact ih _ (step_lacks shelf state slot place context hc s hput hother)
      fun t ht => hs t (List.mem_cons_of_mem s ht)

end Lacking

section Hooks

theorem caches_setCache (state : State) (slot : Nat) (cache : Cache) :
    (state.setCache slot cache).caches slot = cache := by
  simp only [State.setCache, if_true]

theorem setCache_setCache (state : State) (slot : Nat) (cache after : Cache) :
    (state.setCache slot cache).setCache slot after = state.setCache slot after := by
  unfold State.setCache
  congr 1
  funext n
  by_cases hn : n = slot
  · simp only [hn, if_true]
  · simp only [hn, if_false]

variable (shelf : Shelf) (state : State) (slot place : Nat) (source : Source) (hook : Hook) (path : Path)
variable (hp : shelf place = .source source) (hh : source.hook = some hook)
  (hc : (state.caches slot).Lacks place (.attributes path))

include hp

theorem step_bind :
    step shelf state (.bind slot place) =
      (state.setCache slot ((state.caches slot).bind (.held place)),
        .quiet .done (Event.ofDropped ((state.caches slot).dropCount (.held place)))) := by
  have howner : shelf.owner place = .held place := by
    rw [Shelf.owner, hp]
  simp only [step, howner]

include hh hc

/-- Where there is no row, whoever asks for the attributes calls the hook. -/
theorem called_of_lacks (s : Step) (hl : s.lookup? shelf = some ⟨slot, place, .attributes path⟩) :
    (step shelf state s).2.called = some (place, plainPath path) := by
  obtain ⟨known, hknown, hstep⟩ := step_of_lookup shelf state s _ hl
  obtain ⟨rfl, hw⟩ := usable_of_source shelf place source hp known hknown
  have hmiss := (state.caches slot).get?_bind_of_lacks place (.attributes path) hc
  have hcalled : (known.discover (.held place) (state.asked place) (.attributes path)
      (some (state.caches slot))).called = some (plainPath path) := by
    rw [known.discover_miss _ (state.asked place) (.attributes path) _ hw hmiss, known.explore_of_hook hook hh]
    cases Source.offered hook.room (hook.answer (state.asked place) (plainPath path)) <;> rfl
  simp only [hstep, Step.outcomeFrom, Lookup.discovered, owner_of_source shelf place known hp, hcalled, Option.map_some]

variable (hw : source.index.isWellFormed = true)

include hw

/-- A failure adds no row, and the path of the call is known. -/
theorem discover_of_failure (fault : DiscoveryFault)
    (hf : Source.failure? hook.room (hook.answer (state.asked place) (plainPath path)) = some fault) :
    QueryHints.discover (shelf.subject place) (state.asked place) (some (.attributes path))
        (some (state.caches slot)) =
      .ok ⟨[], some ((state.caches slot).bind (.held place)), some (plainPath path), some fault,
        (state.caches slot).dropCount (.held place)⟩ := by
  have hmiss := (state.caches slot).get?_bind_of_lacks place (.attributes path) hc
  rw [subject_of_source shelf place source hp]
  simp only [QueryHints.discover, Subject.source, Subject.owner, Except.map,
    source.discover_miss _ _ (.attributes path) _ hw hmiss, source.explore_of_hook hook hh,
    Source.offered_of_failure _ _ fault hf]

/-- A success adds one row to the cache that binding leaves. -/
theorem discover_of_no_failure
    (hf : Source.failure? hook.room (hook.answer (state.asked place) (plainPath path)) = none) :
    ∃ names, (source.explore (state.asked place) (.attributes path)).found = .ok names ∧
      QueryHints.discover (shelf.subject place) (state.asked place) (some (.attributes path))
          (some (state.caches slot)) =
        .ok ⟨names, some (((state.caches slot).bind (.held place)).put (.attributes path) names),
          some (plainPath path), none, (state.caches slot).dropCount (.held place)⟩ := by
  have hmiss := (state.caches slot).get?_bind_of_lacks place (.attributes path) hc
  obtain ⟨offers, hoffers⟩ := Source.offered_of_no_failure _ _ hf
  rw [subject_of_source shelf place source hp]
  refine ⟨offers.without source.index.ignored, ?_, ?_⟩
  · rw [source.explore_of_hook hook hh, hoffers]
    rfl
  · simp only [QueryHints.discover, Subject.source, Subject.owner, Except.map,
      source.discover_miss _ _ (.attributes path) _ hw hmiss, source.explore_of_hook hook hh, hoffers]

/-- A step with a failing hook leaves what binding the cache leaves, apart from the note of the call. -/
theorem step_of_failure (reports : Bool) (fault : DiscoveryFault)
    (hf : Source.failure? hook.room (hook.answer (state.asked place) (plainPath path)) = some fault) :
    step shelf state (.discover slot place (some (.attributes path)) reports) =
      ((step shelf state (.bind slot place)).1.noteCall place (some (plainPath path)),
        ⟨.ok (.names (some [])), some (place, plainPath path), if reports then [fault] else [],
          (step shelf state (.bind slot place)).2.events ++ if reports then [] else [.candidatesFailed]⟩) := by
  rw [step_bind shelf state slot place source hp]
  simp only [step, discover_of_failure shelf state slot place source hook path hp hh hc hw fault hf]
  rfl

theorem step_of_no_failure (reports : Bool)
    (hf : Source.failure? hook.room (hook.answer (state.asked place) (plainPath path)) = none) :
    ∃ names, (source.explore (state.asked place) (.attributes path)).found = .ok names ∧
      step shelf state (.discover slot place (some (.attributes path)) reports) =
        (((step shelf state (.bind slot place)).1.setCache slot
            ⟨.held place, ((step shelf state (.bind slot place)).1.caches slot).rows ++
              [(.attributes path, names)]⟩).noteCall place (some (plainPath path)),
          ⟨.ok (.names (some names)), some (place, plainPath path), [],
            (step shelf state (.bind slot place)).2.events⟩) := by
  obtain ⟨names, hnames, hdiscover⟩ := discover_of_no_failure shelf state slot place source hook path hp hh hc hw hf
  have hmiss := (state.caches slot).get?_bind_of_lacks place (.attributes path) hc
  have hput := Cache.put_of_missing _ _ names hmiss
  refine ⟨names, hnames, ?_⟩
  rw [step_bind shelf state slot place source hp, setCache_setCache, caches_setCache]
  simp only [step, hdiscover, hput, Cache.owner_bind, Option.getD_some, Discovered.events]
  cases reports <;> simp [Outcome.quiet]

end Hooks

def detour : List Step :=
  [.discover 0 0 (some .ident) true, .discover 1 0 (some (.attributes [])) false, .bind 0 2, .clear 1]

end Session

end QueryHints
