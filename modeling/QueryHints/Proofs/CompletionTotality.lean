import QueryHints.Proofs.RegroupedEntries

namespace QueryHints

def Names.AllTexts (names : Names) : Prop :=
  ∀ name ∈ names, ∃ s, name = .text s

/-- There is an answer, and if it is a completion, it has candidates. -/
def Completed.Answers (completed : Completed) : Prop :=
  ∃ answer, completed.result = .ok answer ∧ ∀ c, answer = some c → c.candidates ≠ []

namespace Names

theorem allTexts_map (keys : List Text) : AllTexts (keys.map .text) := by
  intro name hname
  obtain ⟨key, -, rfl⟩ := List.mem_map.mp hname
  exact ⟨key, rfl⟩

theorem allTexts_without (names ignored : Names) (h : names.AllTexts) :
    (names.without ignored).AllTexts := by
  intro name hname
  exact h name (List.mem_filter.mp hname).1

theorem without_without (names ignored : Names) :
    (names.without ignored).without ignored = names.without ignored := by
  simp [without, List.filter_filter]

theorem allTexts_ofTexts (texts : List Text) : (ofTexts texts).AllTexts := by
  obtain ⟨keys, -, -, heq⟩ := ofTexts_eq_map texts
  rw [heq]
  exact allTexts_map keys

end Names

/-- A limit of at least one candidate, or none, leaves something of every list that is not empty. -/
theorem Limit.cut_of_allowed (limit : Json) (hl : limit = .null ∨ ∃ n : Int, 1 ≤ n ∧ limit = .int n) :
    ∃ bound, ofJson limit = .ok bound ∧
      ∀ words, words ≠ [] → ∃ left, bound.cut words = .ok left ∧ left ≠ [] := by
  rcases hl with rfl | ⟨n, hn, rfl⟩
  · exact ⟨.unlimited, rfl, fun words hw => ⟨words, rfl, hw⟩⟩
  · refine ⟨.atMost n.toNat, ?_, ?_⟩
    · rw [ofJson, ofInt, if_pos hn]
    · intro words hw
      refine ⟨words.take n.toNat, rfl, ?_⟩
      have hcount : n.toNat ≠ 0 := by omega
      simp [List.take_eq_nil_iff, hcount, hw]

namespace Query

section Answering

variable (query : Query) (ignored found : Names)

theorem options_of_texts (h : (found.without ignored).AllTexts) :
    ∃ texts, options ignored found = .ok texts := by
  have hnone : (found.without ignored).find? (fun name => name.text?.isNone) = none := by
    rw [List.find?_eq_none]
    intro name hname
    obtain ⟨s, rfl⟩ := h name hname
    simp [Name.text?]
  rw [options, hnone]
  exact ⟨_, rfl⟩

/-- The failure tells the kind of a name that is no text. -/
theorem options_of_not_texts (h : ¬ (found.without ignored).AllTexts) :
    ∃ name ∈ found.without ignored, name.text? = none ∧
      options ignored found = .error (.nameNotText name.toJson.kind) := by
  cases hfirst : (found.without ignored).find? fun name => name.text?.isNone with
  | none =>
    exfalso
    apply h
    intro name hname
    have htext := List.find?_eq_none.mp hfirst name hname
    cases name with
    | text s => exact ⟨s, rfl⟩
    | null | bool _ | int _ | real _ => simp [Name.text?] at htext
  | some name =>
    refine ⟨name, List.mem_of_find?_eq_some hfirst, ?_, ?_⟩
    · simpa using List.find?_some hfirst
    · rw [options, hfirst]

variable (bound : Limit)

/-- Names that are texts have an answer, with candidates if the limit leaves any of the words. -/
theorem answer_of_texts (h : (found.without ignored).AllTexts)
    (hcut : ∀ words, words ≠ [] → ∃ left, bound.cut words = .ok left ∧ left ≠ []) :
    ∃ answer, query.answer bound ignored found = .ok answer ∧ ∀ c, answer = some c → c.candidates ≠ [] := by
  obtain ⟨texts, htexts⟩ := options_of_texts ignored found h
  rw [query.answer_of_options bound ignored found texts htexts]
  split_ifs with hranked
  · exact ⟨none, rfl, fun c hc => nomatch hc⟩
  · obtain ⟨left, hleft, hsome⟩ := hcut _ hranked
    refine ⟨some ⟨left, query.span.1, query.span.2⟩, by rw [hleft]; rfl, ?_⟩
    intro c hc
    cases hc
    exact hsome

theorem answer_of_not_texts (h : ¬ (found.without ignored).AllTexts) :
    ∃ name ∈ found.without ignored, name.text? = none ∧
      query.answer bound ignored found = .error (.nameNotText name.toJson.kind) := by
  obtain ⟨name, hname, hnot, hoptions⟩ := options_of_not_texts ignored found h
  refine ⟨name, hname, hnot, ?_⟩
  have hfound : found.isEmpty = false :=
    List.isEmpty_eq_false_iff_exists_mem.mpr ⟨name, (List.mem_filter.mp hname).1⟩
  rw [answer, if_neg (by simp [hfound]), hoptions]

end Answering

end Query

namespace Source

variable (source : Source) (owner : Owner) (earlier : List Path)

/-- Whatever a hook answers is shown key by key, so what is found among attributes is texts. -/
theorem allTexts_explored (path : List Text) (names : Names)
    (h : (source.explore earlier (.attributes path)).found = .ok names) : names.AllTexts := by
  have htexts (keys : List Text) : (attributesAmong keys).AllTexts := Names.allTexts_ofTexts _
  cases hk : source.hook with
  | none =>
    simp only [explore, hk, Except.ok.injEq] at h
    subst h
    exact Names.allTexts_without _ _ (htexts _)
  | some hook =>
    simp only [explore, hk, offered] at h
    cases ha : hook.answer earlier (path.filter fun key => !Key.isPlaceholder key) with
    | error raised =>
      rw [ha] at h
      cases h
    | ok v =>
      cases hkeys : keysOf hook.room v with
      | error fault =>
        simp only [ha, hkeys] at h
        cases h
      | ok keys =>
        simp only [ha, hkeys, Except.map, Except.ok.injEq] at h
        subst h
        exact Names.allTexts_without _ _ (htexts keys)

/-- Among attributes nothing but texts is found, whatever a hook answers. -/
theorem allTexts_attributes (path : List Text) :
    (source.discover owner earlier (.attributes path) none).found.AllTexts := by
  have hnone : Names.AllTexts [] := fun name hname => nomatch hname
  cases hw : source.index.isWellFormed with
  | false =>
    rw [source.discover_malformed owner earlier _ hw]
    exact hnone
  | true =>
    rw [source.discover_uncached owner earlier _ hw]
    cases hfound : (source.explore earlier (.attributes path)).found with
    | error fault => exact hnone
    | ok names => exact source.allTexts_explored earlier path names hfound

/-- On an ident key all idents are found that are not ignored, texts or not. -/
theorem found_ident :
    (source.discover owner earlier .ident none).found =
      if source.index.isWellFormed then source.index.idents.without source.index.ignored else [] := by
  cases hw : source.index.isWellFormed with
  | false =>
    rw [source.discover_malformed owner earlier _ hw]
    rfl
  | true =>
    rw [source.discover_uncached owner earlier _ hw]
    rfl

end Source

def Index.OffersTexts (index : Index) : Prop :=
  (index.idents.without index.ignored).AllTexts

theorem Index.offersTexts_of_listsTexts (limits : Limits) (fields : Json.Fields) (index : Index)
    (h : ofJson limits (.object fields) = .ok index) (ht : (Json.Fields.get fields "idents").ListsTexts) :
    index.OffersTexts := by
  have hidents := Schema.readNames_eq_listed _ ht _ (ofJson_eq_ok limits fields index h).2.1
  apply Names.allTexts_without
  rw [hidents]
  exact Names.allTexts_ofTexts _

/-- A source is refused for its depth only, and only if it is read from a plain value. -/
theorem Subject.source_fault (subject : Subject) (fault : IndexFault) (h : subject.source = .error fault) :
    fault.fault = .depth := by
  cases subject with
  | held id source => cases h
  | plain limits v =>
    rw [source, Index.adapt] at h
    cases hread : Index.ofJson limits v with
    | ok index =>
      rw [hread] at h
      cases h
    | error reason =>
      simp only [hread] at h
      split_ifs at h with hdepth
      · cases h
        exact hdepth
      · cases h

/-- What completing a query of a source finds: texts, unless the cursor is on an ident key. -/
theorem allTexts_found (source : Source) (owner : Owner) (earlier : List Path) (context : Option Context) :
    let found := (match context with
      | some context => source.discover owner earlier context none
      | none => .nothing none).found
    (found.without source.index.ignored).AllTexts ↔
      (source.index.isWellFormed = true → context = some .ident → source.index.OffersTexts) := by
  have hnone : Names.AllTexts (Names.without [] source.index.ignored) := fun name hname => nomatch hname
  cases context with
  | none => simpa [Discovered.nothing] using hnone
  | some context =>
    cases context with
    | attributes path =>
      have htexts := source.allTexts_attributes owner earlier path
      simpa using Names.allTexts_without _ source.index.ignored htexts
    | ident =>
      cases hw : source.index.isWellFormed with
      | false => simpa [source.found_ident, hw] using hnone
      | true => simp [source.found_ident, hw, Names.without_without, Index.OffersTexts]

section Completing

variable (subject : Subject) (source : Source) (hs : subject.source = .ok (some source))
variable (earlier : List Path) (query : Query) (limit : Json)
variable (hl : limit = .null ∨ ∃ n : Int, 1 ≤ n ∧ limit = .int n)

include hs hl

/-- A source whose idents are texts has an answer to every query. -/
theorem answers_of_texts (h : source.index.isWellFormed = true →
      Context.ofToken? source.index query.token = some .ident → source.index.OffersTexts) :
    (complete subject earlier query limit none).Answers := by
  obtain ⟨bound, hbound, hcut⟩ := Limit.cut_of_allowed limit hl
  have htexts := (allTexts_found source subject.owner earlier _).mpr h
  simp only [Completed.Answers, complete, hbound, hs]
  exact query.answer_of_texts source.index.ignored _ bound htexts hcut

/-- An ident that is no text fails every completion on an ident key. -/
theorem fails_of_not_texts (hw : source.index.isWellFormed = true)
    (hc : Context.ofToken? source.index query.token = some .ident) (h : ¬ source.index.OffersTexts) :
    ∃ name ∈ source.index.idents.without source.index.ignored, name.text? = none ∧
      (complete subject earlier query limit none).result = .error (.nameNotText name.toJson.kind) := by
  obtain ⟨bound, hbound, -⟩ := Limit.cut_of_allowed limit hl
  have hfound : (source.discover subject.owner earlier .ident none).found =
      source.index.idents.without source.index.ignored := by
    rw [source.found_ident, if_pos hw]
  obtain ⟨name, hname, hnot, hanswer⟩ := query.answer_of_not_texts source.index.ignored
    (source.index.idents.without source.index.ignored) bound (by rwa [Names.without_without])
  rw [Names.without_without] at hname
  refine ⟨name, hname, hnot, ?_⟩
  simp only [complete, hbound, hs, hc, hfound]
  exact hanswer

end Completing

/-- When a completion fails, with a limit that allows at least one candidate or with none. A source is
answered for, with candidates or with nothing, if and only if the cursor is not on an ident key of a
well-formed index with an ident that is neither ignored nor a text; there it fails for the kind of such an
ident. An index whose idents were listed as texts always answers, with any hook. A plain value that is no index
is answered with nothing, and fails only if it is nested too deep. -/
theorem answers_unless_ident_not_text (subject : Subject) (earlier : List Path) (query : Query) (limit : Json)
    (hl : limit = .null ∨ ∃ n : Int, 1 ≤ n ∧ limit = .int n) :
    (∀ source, subject.source = .ok (some source) →
      ((complete subject earlier query limit none).Answers ↔
        (source.index.isWellFormed = true → Context.ofToken? source.index query.token = some .ident →
          ∀ name ∈ source.index.idents.without source.index.ignored, ∃ s, name = .text s)) ∧
      (¬ (complete subject earlier query limit none).Answers →
        ∃ name ∈ source.index.idents.without source.index.ignored, name.text? = none ∧
          (complete subject earlier query limit none).result =
            .error (.nameNotText name.toJson.kind))) ∧
    (∀ limits fields index hook, subject.source = .ok (some ⟨index, hook⟩) →
      Index.ofJson limits (.object fields) = .ok index → (Json.Fields.get fields "idents").ListsTexts →
      (complete subject earlier query limit none).Answers) ∧
    (subject.source = .ok none → (complete subject earlier query limit none).result = .ok none) ∧
    (∀ fault, subject.source = .error fault → fault.fault = .depth ∧
      (complete subject earlier query limit none).result = .error (.index fault)) := by
  obtain ⟨bound, hbound, -⟩ := Limit.cut_of_allowed limit hl
  refine ⟨?_, ?_, ?_, ?_⟩
  · intro source hs
    by_cases hfine : source.index.isWellFormed = true →
        Context.ofToken? source.index query.token = some .ident → source.index.OffersTexts
    · have hanswers := answers_of_texts subject source hs earlier query limit hl hfine
      exact ⟨⟨fun _ => hfine, fun _ => hanswers⟩, fun h => absurd hanswers h⟩
    · simp only [Classical.not_imp] at hfine
      obtain ⟨hw, hc, hnot⟩ := hfine
      obtain ⟨name, hname, htext, hresult⟩ :=
        fails_of_not_texts subject source hs earlier query limit hl hw hc hnot
      refine ⟨⟨?_, fun h => absurd (h hw hc) hnot⟩, fun _ => ⟨name, hname, htext, hresult⟩⟩
      rintro ⟨answer, hanswer, -⟩
      rw [hresult] at hanswer
      cases hanswer
  · intro limits fields index hook hs hread ht
    apply answers_of_texts subject ⟨index, hook⟩ hs earlier query limit hl
    intro _ _
    exact index.offersTexts_of_listsTexts limits fields hread ht
  · intro hs
    simp only [complete, hbound, hs]
  · intro fault hs
    refine ⟨subject.source_fault fault hs, ?_⟩
    simp only [complete, hbound, hs]

def identQuery : Query where
  token := ⟨[], 2, 2, .other, [.mk (some .ident) .absent 1]⟩
  fragment := []
  cursor := none

def identFields (ident : Json) : Json.Fields :=
  [("index-io", .list []), ("idents", .list [ident])]

/-- With a text as its ident the index answers, also with a hook that always raises. -/
theorem answers_unless_ident_not_text_id :
    ∃ index, Index.ofJson (.ofDepth 100) (.object (identFields (.text "user/id"))) = .ok index ∧
      (Json.Fields.get (identFields (.text "user/id")) "idents").ListsTexts ∧ (1 : Int) ≤ 3 ∧
      (complete (.held 0 ⟨index, some ⟨fun _ _ => .error ⟨"RuntimeError", "hook failed"⟩, 100⟩⟩) [] identQuery
        (.int 3) none).Answers := by
  have ht : (Json.Fields.get (identFields (.text "user/id")) "idents").ListsTexts := by
    intro items he item hi
    cases he
    exact ⟨"user/id", List.mem_singleton.mp hi⟩
  refine ⟨_, rfl, ht, by decide, ?_⟩
  exact (answers_unless_ident_not_text _ [] identQuery (.int 3) (Or.inr ⟨3, by decide, rfl⟩)).2.1
    (.ofDepth 100) (identFields (.text "user/id")) _ _ rfl rfl ht

/-- A number as its ident is read without a fault, and then makes every completion fail, of the index and of
the plain value. -/
theorem number_ident_fails :
    ∃ index, Index.ofJson (.ofDepth 100) (.object (identFields (.int 1))) = .ok index ∧
      (complete (.held 0 ⟨index, none⟩) [] identQuery .null none).result = .error (.nameNotText .int) ∧
      (complete (.plain (.ofDepth 100) (.object (identFields (.int 1)))) [] identQuery .null none).result =
        .error (.nameNotText .int) := by
  refine ⟨_, rfl, ?_, ?_⟩
  · rfl
  · rfl

end QueryHints
