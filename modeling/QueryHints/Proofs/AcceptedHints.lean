import QueryHints.Proofs.CachedDiscovery
import QueryHints.Proofs.EditedText
import QueryHints.Proofs.ExactAnswers
import QueryHints.Session

namespace QueryHints

open Editor (Screen Position HintList hintQuery hintList)

namespace Query

variable (query : Query)

theorem span_of_answer (limit : Limit) (ignored found : Names) (c : Completion)
    (h : query.answer limit ignored found = .ok (some c)) : (c.replaceFrom, c.replaceTo) = query.span := by
  cases hoptions : options ignored found with
  | error fault =>
    rw [answer, hoptions] at h
    split_ifs at h
    cases h
  | ok texts =>
    rw [query.answer_of_options limit ignored found texts hoptions] at h
    split_ifs at h
    · cases h
    · cases hcut : limit.cut (Search.rankedTexts query.fragment texts) with
      | error fault =>
        rw [hcut] at h
        cases h
      | ok words =>
        rw [hcut] at h
        cases h
        rfl

/-- The span of a completion is that of its query, whatever has been discovered. -/
theorem span_of_complete (subject : Subject) (earlier : List Path) (limit : Json) (cache : Option Cache)
    (c : Completion) (h : (complete subject earlier query limit cache).result = .ok (some c)) :
    (c.replaceFrom, c.replaceTo) = query.span := by
  unfold complete at h
  cases hlimit : Limit.ofJson limit with
  | error fault => simp [hlimit] at h
  | ok bound =>
    cases hsource : subject.source with
    | error fault => simp [hlimit, hsource] at h
    | ok source =>
      cases source with
      | none => simp [hlimit, hsource] at h
      | some source =>
        simp only [hlimit, hsource] at h
        exact query.span_of_answer bound source.index.ignored _ c h

end Query

/-- The list of a hint is made of a completion, and spans what the completion replaces. -/
theorem Engine.list_of_hint (engine : Engine) (cache : Cache) (subject : Subject) (earlier : List Path)
    (token : Token) (cursor : Position) (list : HintList)
    (h : (engine.hint cache subject earlier token cursor).list = .ok (some list)) :
    list.start = ⟨cursor.line, (hintQuery token cursor).span.1⟩ ∧
      list.stop = ⟨cursor.line, (hintQuery token cursor).span.2⟩ := by
  obtain ⟨completion, hresult, hlist⟩ : ∃ completion,
      (engine.complete cache subject earlier (hintQuery token cursor) .null).result = .ok completion ∧
        completion.map (hintList cursor) = some list := by
    unfold hint at h
    cases hresult : (engine.complete cache subject earlier (hintQuery token cursor) .null).result with
    | error fault => simp [hresult, Except.map] at h
    | ok completion => exact ⟨completion, rfl, by simpa [hresult, Except.map] using h⟩
  obtain ⟨c, rfl, rfl⟩ := Option.map_eq_some_iff.mp hlist
  have hspan := (hintQuery token cursor).span_of_complete subject earlier _ _ c hresult
  rw [← hspan]
  exact ⟨rfl, rfl⟩

/-- In a session a hint is the same. -/
theorem Session.step_hint (shelf : Session.Shelf) (state : Session.State) (seat : Session.Seat) (place : Nat)
    (token : Token) (cursor : Position) :
    (Session.step shelf state (.hint seat place token cursor)).2.result =
      (seat.engine.hint (state.caches seat.slot) (shelf.subject place) (state.asked place) token cursor).list.map
        .hint := by
  simp only [Session.step, Session.completeAt, Engine.hint]
  cases (seat.engine.complete (state.caches seat.slot) (shelf.subject place) (state.asked place)
    (hintQuery token cursor) .null).result <;> rfl

def Editor.Screen.typed (screen : Screen) (token : Token) : Text :=
  ((screen.lineAt screen.cursor.line).take screen.cursor.ch.toNat).drop token.start.toNat

namespace Editor.Screen.Shows

variable {screen : Screen} {above below : List Text} {line : Text} {token : Token}
variable (hshows : screen.Shows above line below token)
variable (hstart : token.start ≤ screen.cursor.ch) (hstop : screen.cursor.ch ≤ token.stop)

include hshows hstart hstop

/-- A hint asks for what was typed. -/
theorem fragment_eq : (hintQuery token screen.cursor).fragment = screen.typed token := by
  have hcolumns : (screen.cursor.ch - token.start).toNat = screen.cursor.ch.toNat - token.start.toNat := by
    have := hshows.start_nonneg
    omega
  have hshorter : min (screen.cursor.ch.toNat - token.start.toNat) (token.stop.toNat - token.start.toNat) =
      screen.cursor.ch.toNat - token.start.toNat := by
    omega
  calc (hintQuery token screen.cursor).fragment
      = ((line.take token.stop.toNat).drop token.start.toNat).take
          (screen.cursor.ch.toNat - token.start.toNat) := by
        rw [hshows.text, ← hcolumns]
        rfl
    _ = (line.drop token.start.toNat).take (screen.cursor.ch.toNat - token.start.toNat) := by
        rw [List.drop_take, List.take_take, hshorter]
    _ = (line.take screen.cursor.ch.toNat).drop token.start.toNat := List.drop_take.symm
    _ = screen.typed token := by
        rw [typed, hshows.cursor, screen.lineAt_eq above below line hshows.lines]

/-- The fragment reaches from the token's start to the cursor, so the span starts where the token does. -/
theorem span_eq : (hintQuery token screen.cursor).span =
    if Search.isBare (screen.typed token) then (screen.cursor.ch, screen.cursor.ch)
    else (token.start, token.stop) := by
  have hfragment := hshows.fragment_eq hstart hstop
  have hlength : ((hintQuery token screen.cursor).fragment.length : Int) = screen.cursor.ch - token.start := by
    have hnonneg := hshows.start_nonneg
    have hinside := hshows.stop_le_length
    rw [hfragment, typed, hshows.cursor, screen.lineAt_eq above below line hshows.lines, List.length_drop,
      List.length_take]
    omega
  have hcursor : (hintQuery token screen.cursor).cursorAt = screen.cursor.ch := rfl
  have hend : (hintQuery token screen.cursor).token.stop = token.stop := rfl
  rw [Query.span, hlength, hcursor, hend, ← hfragment]
  congr 2
  omega

end Editor.Screen.Shows

/-- Hints only look at the editor. The stretch that a hint replaces stands on the cursor's line, inside the token
and around the cursor. If anything but opening brackets and blanks was typed, an accepted hint takes the token's
place in the line; otherwise it is put in at the cursor. -/
theorem accepted_hint_replaces_token (engine : Engine) (cache : Cache) (subject : Subject) (earlier : List Path)
    (screen : Screen) (above below : List Text) (line : Text) (token : Token)
    (hshows : screen.Shows above line below token)
    (hstart : token.start ≤ screen.cursor.ch) (hstop : screen.cursor.ch ≤ token.stop) :
    screen.executeAll (engine.hint cache subject earlier token screen.cursor).calls = screen ∧
    ∀ list, (engine.hint cache subject earlier token screen.cursor).list = .ok (some list) →
      list.start.line = screen.cursor.line ∧ list.stop.line = screen.cursor.line ∧
      token.start ≤ list.start.ch ∧ list.start.ch ≤ screen.cursor.ch ∧
      screen.cursor.ch ≤ list.stop.ch ∧ list.stop.ch ≤ token.stop ∧
      ∀ item ∈ list.items,
        (Search.isBare (screen.typed token) = false →
          (screen.replace item list.start list.stop).text = Text.unlines (above ++
            (line.take token.start.toNat ++ item ++ line.drop token.stop.toNat) :: below)) ∧
        (Search.isBare (screen.typed token) = true →
          (screen.replace item list.start list.stop).text = Text.unlines (above ++
            (line.take screen.cursor.ch.toNat ++ item ++ line.drop screen.cursor.ch.toNat) :: below)) := by
  refine ⟨rfl, ?_⟩
  intro list hlist
  obtain ⟨hfrom, hto⟩ := engine.list_of_hint cache subject earlier token screen.cursor list hlist
  rw [hshows.span_eq hstart hstop] at hfrom hto
  have hreplace (item : Text) (first last : Int) :
      (screen.replace item ⟨screen.cursor.line, first⟩ ⟨screen.cursor.line, last⟩).text =
        Text.unlines (above ++ (line.take first.toNat ++ item ++ line.drop last.toNat) :: below) := by
    rw [hshows.cursor]
    exact screen.text_replace_in_line above below line hshows.lines item first last
  cases hbare : Search.isBare (screen.typed token) with
  | true =>
    rw [hbare, if_pos rfl] at hfrom hto
    rw [hfrom, hto]
    refine ⟨rfl, rfl, hstart, le_refl _, le_refl _, hstop, ?_⟩
    intro item _
    refine ⟨fun h => absurd h Bool.noConfusion, fun _ => ?_⟩
    exact hreplace item screen.cursor.ch screen.cursor.ch
  | false =>
    rw [hbare, if_neg Bool.false_ne_true] at hfrom hto
    rw [hfrom, hto]
    refine ⟨rfl, rfl, le_refl _, hstart, hstop, le_refl _, ?_⟩
    intro item _
    refine ⟨fun _ => ?_, fun h => absurd h Bool.noConfusion⟩
    exact hreplace item token.start token.stop

def hintedIndex : Index where
  rules := .table [⟨[], .ofKeys ["app/name", "app/version"], by decide⟩]
  idents := []
  ignored := []

def hintedScreen : Screen where
  lines := ["[:user/id", " :app/vers]"]
  cursor := ⟨1, 5⟩
  unbroken := by decide

def hintedToken : Token :=
  ⟨":app/vers", 1, 10, .atom, [.mk (some .attrList) .absent 0]⟩

theorem hintedScreen_shows : hintedScreen.Shows ["[:user/id"] " :app/vers]" [] hintedToken :=
  ⟨rfl, rfl, by decide, by decide, by decide, by decide⟩

/-- There are hints for the token, and one of them is the longer of the two attributes. -/
theorem exists_hint_version : ∃ list,
    (Engine.hint {} .empty (.held 0 ⟨hintedIndex, none⟩) [] hintedToken hintedScreen.cursor).list = .ok (some list) ∧
      Key.text "app/version" ∈ list.items := by
  let query := hintQuery hintedToken hintedScreen.cursor
  obtain ⟨keys, -, hkeys, hresult⟩ :=
    complete_words (.held 0 ⟨hintedIndex, none⟩) hintedIndex [] rfl rfl [] query
  have hoffers : hintedIndex.Offers hintedToken "app/version" :=
    ⟨rfl, .attributes [], by decide +kernel, by decide +kernel, by decide, by decide⟩
  have hword : Key.text "app/version" ∈ query.words keys :=
    (query.mem_words keys _).mpr ⟨_, (hkeys _).mpr hoffers, rfl, Or.inr ⟨by decide, by decide +kernel⟩⟩
  have hsuits : Cache.Suits .empty (.held 0 ⟨hintedIndex, none⟩) :=
    fun source _ _ => Cache.rowsOf_of_no_rows .empty source rfl
  have hcached := (complete_cached _ .empty hsuits query .null).1
  rw [hresult .null .unlimited rfl, if_neg (List.ne_nil_of_mem hword)] at hcached
  refine ⟨hintList hintedScreen.cursor ⟨query.words keys, query.span.1, query.span.2⟩, ?_, hword⟩
  exact congrArg (Except.map fun completion => completion.map (hintList hintedScreen.cursor)) hcached

/-- The hint takes the place of the whole token, the part behind the cursor included. -/
theorem accepted_hint_replaces_token_version :
    hintedScreen.Shows ["[:user/id"] " :app/vers]" [] hintedToken ∧
    hintedToken.start ≤ hintedScreen.cursor.ch ∧ hintedScreen.cursor.ch ≤ hintedToken.stop ∧
    ∃ list, (Engine.hint {} .empty (.held 0 ⟨hintedIndex, none⟩) [] hintedToken hintedScreen.cursor).list =
        .ok (some list) ∧ Key.text "app/version" ∈ list.items ∧
      (hintedScreen.replace (Key.text "app/version") list.start list.stop).text =
        Text.of "[:user/id\n :app/version]" := by
  obtain ⟨list, hlist, hitem⟩ := exists_hint_version
  obtain ⟨-, hspans⟩ := accepted_hint_replaces_token {} .empty (.held 0 ⟨hintedIndex, none⟩) [] hintedScreen _ _ _
    hintedToken hintedScreen_shows (by decide) (by decide)
  obtain ⟨-, -, -, -, -, -, hitems⟩ := hspans list hlist
  refine ⟨hintedScreen_shows, by decide, by decide, list, hlist, hitem, ?_⟩
  rw [(hitems _ hitem).1 (by decide)]
  decide

end QueryHints
