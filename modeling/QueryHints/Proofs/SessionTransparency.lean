import Mathlib.Data.List.Forall2
import QueryHints.Proofs.CachedDiscovery
import QueryHints.Session

namespace QueryHints.Session

def Shelf.Steady (shelf : Shelf) : Prop :=
  ∀ place source, shelf place = .source source → source.Steady

/-- The source that an owner of rows stands for. A passing owner was read from some value on the shelf. -/
def Shelf.Owns (shelf : Shelf) : Owner → Source → Prop
  | .nobody, _ => False
  | .held place, source => shelf place = .source source
  | .passing, source => ∃ place limits value, shelf place = .value limits value ∧
      (Subject.plain limits value).source = .ok (some source)

def Shelf.Accounts (shelf : Shelf) (cache : Cache) : Prop :=
  cache.rows = [] ∨ ∃ source, shelf.Owns cache.owner source ∧ cache.RowsOf source

def State.Faithful (shelf : Shelf) (state : State) : Prop :=
  ∀ slot, shelf.Accounts (state.caches slot)

section Shelves

variable (shelf : Shelf)

theorem subject_of_source (place : Nat) (source : Source) (hp : shelf place = .source source) :
    shelf.subject place = .held place source := by
  simp only [Shelf.subject, hp]

theorem subject_of_value (place : Nat) (limits : Limits) (value : Json)
    (hp : shelf place = .value limits value) : shelf.subject place = .plain limits value := by
  simp only [Shelf.subject, hp]

theorem subject_steady (hs : shelf.Steady) (place : Nat) : (shelf.subject place).Steady := by
  intro source hsource
  cases hp : shelf place with
  | source held =>
    rw [subject_of_source shelf place held hp] at hsource
    cases hsource
    exact hs place source hp
  | value limits value =>
    rw [subject_of_value shelf place limits value hp] at hsource
    cases ha : Index.adapt limits value with
    | error fault => simp [Subject.source, ha, Except.map] at hsource
    | ok adapted =>
      simp only [Subject.source, ha, Except.map, Except.ok.injEq, Option.map_eq_some_iff] at hsource
      obtain ⟨index, _, rfl⟩ := hsource
      exact Source.steady_of_no_hook index

theorem owns_subject (place : Nat) (source : Source)
    (hsource : (shelf.subject place).source = .ok (some source)) :
    shelf.Owns (shelf.subject place).owner source := by
  cases hp : shelf place with
  | source held =>
    rw [subject_of_source shelf place held hp] at hsource ⊢
    cases hsource
    exact hp
  | value limits value =>
    rw [subject_of_value shelf place limits value hp] at hsource ⊢
    exact ⟨place, limits, value, hp, hsource⟩

/-- A cache whose rows are accounted for can be used at any place. -/
theorem accounts_suits (cache : Cache) (ha : shelf.Accounts cache) (place : Nat) :
    cache.Suits (shelf.subject place) := by
  intro source hsource hsame
  obtain ⟨howner, hpassing⟩ := Owner.eq_of_same _ _ hsame
  rcases ha with hr | ⟨known, ho, hr⟩
  · exact cache.rowsOf_of_no_rows source hr
  · have hown := owns_subject shelf place source hsource
    rw [← howner] at hown
    -- only a held owner can be met again, and its place holds one source
    cases hc : cache.owner with
    | nobody => rw [hc] at ho; exact ho.elim
    | passing => exact absurd hc hpassing
    | held id =>
      rw [hc] at ho hown
      have he : Holding.source known = Holding.source source := ho.symm.trans hown
      cases he
      exact hr

theorem accounts_of_left_by (cache after : Cache) (ha : shelf.Accounts cache) (place : Nat)
    (hl : cache.LeftBy (shelf.subject place) after) : shelf.Accounts after := by
  rcases hl with rfl | ⟨source, hsource, howner, hr⟩
  · exact ha
  · refine Or.inr ⟨source, ?_, hr⟩
    rw [howner]
    exact owns_subject shelf place source hsource

theorem accounts_bind (cache : Cache) (ha : shelf.Accounts cache) (owner : Owner) :
    shelf.Accounts (cache.bind owner) := by
  unfold Cache.bind
  split_ifs
  · exact ha
  · exact Or.inl rfl

end Shelves

section States

variable (shelf : Shelf) (state : State)

@[simp]
theorem caches_noteCall (place : Nat) (called : Option Path) :
    (state.noteCall place called).caches = state.caches := by
  cases called <;> rfl

theorem faithful_setCache (hf : state.Faithful shelf) (slot : Nat) (cache : Cache)
    (hc : shelf.Accounts cache) : (state.setCache slot cache).Faithful shelf := by
  intro other
  by_cases ho : other = slot
  · simpa only [State.setCache, ho, if_true] using hc
  · simpa only [State.setCache, ho, if_false] using hf other

theorem faithful_noteCall (hf : state.Faithful shelf) (place : Nat) (called : Option Path) :
    (state.noteCall place called).Faithful shelf := by
  intro slot
  rw [caches_noteCall]
  exact hf slot

theorem faithful_initial : State.initial.Faithful shelf :=
  fun _ => Or.inl rfl

end States

def Step.isPut : Step → Bool
  | .put .. => true
  | _ => false

def Outcome.heard (outcome : Outcome) : Heard Answer :=
  ⟨outcome.result, outcome.reported, outcome.events.filter fun event => !event.isDrop⟩

def heardDiscovery (reports : Bool) : Except IndexFault (Names × Option DiscoveryFault) → Heard Answer
  | .error fault => ⟨.error (.index fault), [], []⟩
  | .ok (found, fault) =>
    { result := .ok (.names (some found))
      reported := if reports then fault.toList else []
      noted := if reports then [] else fault.toList.map fun _ => .candidatesFailed }

def heardAs (form : Option Completion → Answer) (heard : Heard (Option Completion)) : Heard Answer :=
  ⟨heard.result.map form, heard.reported, heard.noted⟩

/-- What is heard of a step without any cache. Steps that only concern a cache have no such meaning. -/
def Step.alone? (shelf : Shelf) : Step → Option (Heard Answer)
  | .complete seat place query limit =>
    some (heardAs .completion (seat.engine.completeAlone (shelf.subject place) query limit))
  | .hint seat place token cursor =>
    some (heardAs (fun completion => .hint (completion.map (Editor.hintList cursor)))
      (seat.engine.completeAlone (shelf.subject place) (Editor.hintQuery token cursor) .null))
  | .discover _ place context reports =>
    some (heardDiscovery reports
      ((QueryHints.discover (shelf.subject place) [] context none).map Discovered.told))
  | _ => none

section Steps

variable (shelf : Shelf) (hs : shelf.Steady) (state : State) (hf : state.Faithful shelf)

include hs hf

theorem completeAt_faithful (seat : Seat) (place : Nat) (query : Query) (limit : Json)
    (form : Option Completion → Answer) :
    (completeAt shelf state seat place query limit form).1.Faithful shelf := by
  have hc := accounts_suits shelf _ (hf seat.slot) place
  have hl := seat.engine.complete_cache_left_by (state.caches seat.slot) (shelf.subject place)
    (state.asked place) query limit (subject_steady shelf hs place) hc
  apply faithful_noteCall
  apply faithful_setCache shelf state hf
  exact accounts_of_left_by shelf _ _ (hf seat.slot) place hl

/-- A completion at a seat is heard as it would be without a cache. -/
theorem completeAt_heard (seat : Seat) (place : Nat) (query : Query) (limit : Json)
    (form : Option Completion → Answer) :
    (completeAt shelf state seat place query limit form).2.heard =
      heardAs form (seat.engine.completeAlone (shelf.subject place) query limit) := by
  have hc := accounts_suits shelf _ (hf seat.slot) place
  rw [← seat.engine.complete_heard (state.caches seat.slot) (shelf.subject place)
    (state.asked place) query limit (subject_steady shelf hs place) hc]
  rfl

theorem discover_faithful (slot place : Nat) (context : Option Context) (reports : Bool) :
    (step shelf state (.discover slot place context reports)).1.Faithful shelf := by
  have hc := accounts_suits shelf _ (hf slot) place
  simp only [step]
  rw [discover_subject_steady _ (subject_steady shelf hs place) (state.asked place) []]
  cases hd : QueryHints.discover (shelf.subject place) [] context (some (state.caches slot)) with
  | error fault => exact hf
  | ok d =>
    obtain ⟨after, ha, hl⟩ := discover_subject_left_by _ _ hc context d hd
    apply faithful_noteCall
    apply faithful_setCache shelf state hf
    rw [ha]
    exact accounts_of_left_by shelf _ _ (hf slot) place hl

theorem discover_heard (slot place : Nat) (context : Option Context) (reports : Bool) :
    (step shelf state (.discover slot place context reports)).2.heard =
      heardDiscovery reports
        ((QueryHints.discover (shelf.subject place) [] context none).map Discovered.told) := by
  have hc := accounts_suits shelf _ (hf slot) place
  rw [← discover_subject_cached _ _ hc context]
  simp only [step]
  rw [discover_subject_steady _ (subject_steady shelf hs place) (state.asked place) []]
  cases QueryHints.discover (shelf.subject place) [] context (some (state.caches slot)) with
  | error fault => rfl
  | ok d =>
    simp only [Outcome.heard, heardDiscovery, Except.map, Discovered.told, Discovered.events,
      List.filter_append, Event.filter_ofDropped, List.nil_append]
    cases reports with
    | true => rfl
    | false => cases d.fault <;> rfl

/-- Whatever the step, the caches stay accounted for. -/
theorem step_faithful (s : Step) (hp : s.isPut = false) : (step shelf state s).1.Faithful shelf := by
  cases s with
  | complete seat place query limit =>
    exact completeAt_faithful shelf hs state hf seat place query limit _
  | hint seat place token cursor =>
    exact completeAt_faithful shelf hs state hf seat place _ _ _
  | discover slot place context reports =>
    exact discover_faithful shelf hs state hf slot place context reports
  | reset seat => exact faithful_setCache shelf state hf _ _ (Or.inl rfl)
  | bind slot place =>
    exact faithful_setCache shelf state hf _ _ (accounts_bind shelf _ (hf slot) _)
  | clear slot => exact faithful_setCache shelf state hf _ _ (Or.inl rfl)
  | get slot context => exact hf
  | put slot context names => cases hp

/-- In a faithful state a step says what it would say without a cache. -/
theorem step_heard (s : Step) (alone : Heard Answer) (ha : s.alone? shelf = some alone) :
    (step shelf state s).2.heard = alone := by
  cases s with
  | complete seat place query limit =>
    cases ha
    exact completeAt_heard shelf hs state hf seat place query limit _
  | hint seat place token cursor =>
    cases ha
    exact completeAt_heard shelf hs state hf seat place _ _ _
  | discover slot place context reports =>
    cases ha
    exact discover_heard shelf hs state hf slot place context reports
  | _ => cases ha

end Steps

/-- Every step of a run leaves a faithful state and is heard as it would be alone. -/
theorem run_faithful (shelf : Shelf) (hs : shelf.Steady) (state : State)
    (hf : state.Faithful shelf) (steps : List Step) (hp : ∀ s ∈ steps, s.isPut = false) :
    List.Forall₂ (fun s reached => reached.1.Faithful shelf ∧
      ∀ alone, s.alone? shelf = some alone → reached.2.heard = alone)
      steps (run shelf state steps) := by
  induction steps generalizing state with
  | nil => exact List.Forall₂.nil
  | cons s rest ih =>
    have hnext := step_faithful shelf hs state hf s (hp s List.mem_cons_self)
    refine List.Forall₂.cons ⟨hnext, step_heard shelf hs state hf s⟩ ?_
    exact ih _ hnext fun t ht => hp t (List.mem_cons_of_mem s ht)

/-- Caches are transparent. In every run over caches that start empty, whatever sources and values stand on
the shelf and in whatever order engines complete, clients discover, and caches are shared, bound, cleared
and reset, each step that asks for something is answered as it is without a cache, failures of hooks
included, and each row of each cache is what the present owner of that cache gives when asked anew. -/
theorem run_transparent (shelf : Shelf) (hs : shelf.Steady) (steps : List Step)
    (hp : ∀ s ∈ steps, s.isPut = false) :
    List.Forall₂ (fun s reached => (∀ alone, s.alone? shelf = some alone → reached.2.heard = alone) ∧
      reached.1.Faithful shelf) steps (run shelf .initial steps) := by
  have hrun := run_faithful shelf hs .initial (faithful_initial shelf) steps hp
  exact hrun.imp fun _ _ h => ⟨h.2, h.1⟩

/-- One index with a hook that knows the root only, the same index without a hook, an index without usable
rules, and a plain value. -/
def mixedShelf : Shelf
  | 0 => .source ⟨⟨.table [], [.text "user/id"], []⟩, some ⟨fun _ path =>
      if path.isEmpty then .ok (.list [.text "user/id"]) else .error ⟨"KeyError", "missing"⟩, 9⟩⟩
  | 1 => .source ⟨⟨.table [], [.text "user/id"], []⟩, none⟩
  | 2 => .source ⟨⟨.unusable (.int 1), [], []⟩, none⟩
  | _ => .value (.ofDepth 9) (.object [])

def swappingSteps : List Step :=
  let token : Token := ⟨":us", 0, 3, .atom, []⟩
  [.discover 0 0 (some (.attributes [])) true, .discover 0 0 (some (.attributes ["a"])) true,
    .complete ⟨{}, 0⟩ 0 ⟨token, ":us", none⟩ .null, .complete ⟨{ reports := true }, 0⟩ 1 ⟨token, [], none⟩ (.int 1),
    .discover 0 2 (some .ident) false, .discover 0 3 (some .ident) false, .bind 0 1, .clear 0,
    .discover 0 0 (some (.attributes ["a"])) false, .reset ⟨{}, 0⟩, .discover 0 0 (some (.attributes [])) true]

theorem run_transparent_swapping :
    mixedShelf.Steady ∧ (∀ s ∈ swappingSteps, s.isPut = false) ∧
    List.Forall₂ (fun s reached => (∀ alone, s.alone? mixedShelf = some alone → reached.2.heard = alone) ∧
      reached.1.Faithful mixedShelf) swappingSteps (run mixedShelf .initial swappingSteps) := by
  have hs : mixedShelf.Steady := by
    intro place source hp hook hk earlier later path
    match place with
    | 0 => cases hp; cases hk; rfl
    | 1 => cases hp; cases hk
    | 2 => cases hp; cases hk
    | _ + 3 => cases hp
  have hp : ∀ s ∈ swappingSteps, s.isPut = false := by decide
  exact ⟨hs, hp, run_transparent mixedShelf hs swappingSteps hp⟩

end QueryHints.Session
