import QueryHints.Completion
import QueryHints.Proofs.CachedDiscovery
import QueryHints.Proofs.NameSets
import QueryHints.Proofs.RankOrder

namespace QueryHints

/-- The keys that an index offers in a context: idents on an ident key; among attributes, what is reachable
inside the joins of the path, with placeholders counting neither in the path nor as attributes. Nothing
ignored is offered. -/
def Index.OffersIn (index : Index) : Context → (key : Text) → Prop
  | .ident, key => .text key ∈ index.idents ∧ .text key ∉ index.ignored
  | .attributes path, key =>
    key ∈ (index.treeAt (path.filter fun around => !Key.isPlaceholder around)).keys ∧
      Key.isPlaceholder key = false ∧ .text key ∉ index.ignored

/-- The keys that an index offers at a token. An index without rules offers none, and where there is no
context none is offered. -/
def Index.Offers (index : Index) (token : Token) (key : Text) : Prop :=
  index.isWellFormed = true ∧
    ∃ context, Context.ofToken? index token = some context ∧ index.OffersIn context key

theorem Key.text_injective : Function.Injective Key.text := by
  intro a b h
  exact (List.cons.inj h).2

/-- The attributes among some keys come as texts, each of them once. -/
theorem Source.attributesAmong_eq_map (keys : List Text) :
    ∃ attributes : List Text, attributes.Nodup ∧
      (∀ key, key ∈ attributes ↔ key ∈ keys ∧ Key.isPlaceholder key = false) ∧
      attributesAmong keys = attributes.map .text := by
  obtain ⟨attributes, hnodup, hmem, heq⟩ :=
    Names.ofTexts_eq_map (keys.filter fun key => !Key.isPlaceholder key)
  refine ⟨attributes, hnodup, ?_, heq⟩
  intro key
  rw [hmem, List.mem_filter, Bool.not_eq_true']

theorem Names.without_eq_map (keys : List Text) (hk : keys.Nodup) (ignored : Names) :
    ∃ left : List Text, left.Nodup ∧ (∀ key, key ∈ left ↔ key ∈ keys ∧ .text key ∉ ignored) ∧
      Names.without (keys.map Name.text) ignored = left.map .text := by
  refine ⟨_, hk.filter _, ?_, without_map_text keys ignored⟩
  intro key
  rw [List.mem_filter, Bool.not_eq_true', ← Bool.not_eq_true, has_text]

/-- Among attributes an index finds each offered key once, and nothing else. -/
theorem Index.explored_attributes (index : Index) (earlier : List Path) (path : List Text) :
    ∃ keys : List Text, keys.Nodup ∧ (∀ key, key ∈ keys ↔ index.OffersIn (.attributes path) key) ∧
      (Source.explore ⟨index, none⟩ earlier (.attributes path)).found = .ok (keys.map .text) := by
  obtain ⟨attributes, hnodup, hattribute, heq⟩ := Source.attributesAmong_eq_map
    (index.reachable (path.filter fun around => !Key.isPlaceholder around))
  obtain ⟨keys, hkeys, hmem, hwithout⟩ := Names.without_eq_map attributes hnodup index.ignored
  refine ⟨keys, hkeys, ?_, ?_⟩
  · -- placeholders are left out of the path before the tree, and out of its keys after it
    intro key
    rw [hmem, hattribute, OffersIn, reachable, and_assoc]
  · rw [← hwithout, ← heq]
    rfl

section Discovering

variable (index : Index) (texts : List Text) (hi : index.idents = .ofTexts texts)

include hi

/-- Exploring an index whose idents are texts finds each offered key once, and nothing else. -/
theorem Index.explored_keys (earlier : List Path) (context : Context) :
    ∃ keys : List Text, keys.Nodup ∧ (∀ key, key ∈ keys ↔ index.OffersIn context key) ∧
      (Source.explore ⟨index, none⟩ earlier context).found = .ok (keys.map .text) := by
  cases context with
  | ident =>
    obtain ⟨idents, hnodup, -, heq⟩ := Names.ofTexts_eq_map texts
    obtain ⟨keys, hkeys, hmem, hwithout⟩ := Names.without_eq_map idents hnodup index.ignored
    refine ⟨keys, hkeys, ?_, ?_⟩
    · intro key
      rw [hmem, OffersIn, hi, heq]
      simp
    · rw [← hwithout, ← heq, ← hi]
      rfl
  | attributes path => exact index.explored_attributes earlier path

/-- Discovery finds the keys that an index offers and no others, each of them once. -/
theorem Index.discovered_keys (owner : Owner) (earlier : List Path) (context : Context) :
    ∃ keys : List Text, keys.Nodup ∧
      (∀ key, key ∈ keys ↔ index.isWellFormed = true ∧ index.OffersIn context key) ∧
      (Source.discover ⟨index, none⟩ owner earlier context none).found = keys.map .text := by
  cases hw : index.isWellFormed with
  | false =>
    rw [Source.discover_malformed ⟨index, none⟩ owner earlier context hw]
    exact ⟨[], List.nodup_nil, by simp, rfl⟩
  | true =>
    obtain ⟨keys, hnodup, hmem, hfound⟩ := index.explored_keys texts hi earlier context
    rw [Source.discover_uncached ⟨index, none⟩ owner earlier context hw, hfound]
    exact ⟨keys, hnodup, by simpa using hmem, rfl⟩

end Discovering

theorem Limit.cut_subset (limit : Limit) (words cut : List Text) (hc : limit.cut words = .ok cut) :
    cut ⊆ words := by
  cases limit with
  | unlimited =>
    cases hc
    exact List.Subset.refl words
  | atMost count =>
    cases hc
    exact List.take_subset count words
  | fractional => cases hc

namespace Query

section Answering

variable (query : Query) (limit : Limit) (ignored found : Names) (texts : List Text)

/-- An answer is a ranking of the options, cut to the limit, unless the ranking is empty. -/
theorem answer_of_options (ho : options ignored found = .ok texts) :
    query.answer limit ignored found =
      if Search.rankedTexts query.fragment texts = [] then .ok none
      else (limit.cut (Search.rankedTexts query.fragment texts)).map fun words =>
        some ⟨words, query.span.1, query.span.2⟩ := by
  by_cases hf : found.isEmpty = true
  · -- nothing found leaves no options, and a ranking of none is empty
    have htexts : texts = [] := by
      rw [List.isEmpty_iff.mp hf] at ho
      simpa [options, Names.without] using ho.symm
    rw [answer, if_pos hf, htexts, Search.rankedTexts_nil, if_pos rfl]
  · rw [answer, if_neg hf, ho]
    unfold Search.rankedTexts
    dsimp only
    rcases Search.rank query.fragment texts with fault | _ | ⟨best, rest⟩
    · rfl
    · rfl
    · rfl

/-- Every option is the text of a name that was found and is not ignored. -/
theorem mem_options (ho : options ignored found = .ok texts) (word : Text) (hw : word ∈ texts) :
    ∃ key, word = Key.text key ∧ .text key ∈ found ∧ .text key ∉ ignored := by
  unfold options at ho
  split at ho
  · cases ho
  · cases ho
    simp only [List.mem_mergeSort, List.mem_map, List.mem_filterMap] at hw
    obtain ⟨key, ⟨name, hname, htext⟩, rfl⟩ := hw
    cases name with
    | text s =>
      cases htext
      obtain ⟨hfound, hnot⟩ := List.mem_filter.mp hname
      rw [Bool.not_eq_true', ← Bool.not_eq_true, Names.has_text] at hnot
      exact ⟨key, rfl, hfound, hnot⟩
    | null => cases htext
    | bool b => cases htext
    | int n => cases htext
    | real x => cases htext

/-- Nothing ignored is answered, whatever has been found. -/
theorem answer_not_ignored (c : Completion) (ha : query.answer limit ignored found = .ok (some c))
    (key : Text) (hk : .text key ∈ ignored) : Key.text key ∉ c.candidates := by
  intro hmem
  cases ho : options ignored found with
  | error fault =>
    unfold answer at ha
    split_ifs at ha with hf
    · cases ha
    · rw [ho] at ha
      cases ha
  | ok texts =>
    rw [answer_of_options query limit ignored found texts ho] at ha
    split_ifs at ha with hr
    · cases ha
    cases hcut : limit.cut (Search.rankedTexts query.fragment texts) with
    | error fault =>
      rw [hcut] at ha
      cases ha
    | ok words =>
      rw [hcut] at ha
      cases ha
      have hranked := limit.cut_subset _ words hcut hmem
      have hoption := ((Search.mem_rankedTexts query.fragment texts _).mp hranked).1
      obtain ⟨known, htext, -, hnot⟩ := mem_options ignored found texts ho _ hoption
      exact hnot (Key.text_injective htext ▸ hk)

end Answering

section Words

variable (query : Query) (keys : List Text)

def words : List Text :=
  Search.rankedTexts query.fragment ((keys.map Key.text).mergeSort fun a b => a ≤ b)

theorem options_map_text (ignored : Names) (hk : ∀ key ∈ keys, .text key ∉ ignored) :
    options ignored (keys.map .text) =
      .ok ((keys.map Key.text).mergeSort fun a b => a ≤ b) := by
  have hkept : Names.without (keys.map Name.text) ignored = keys.map .text := by
    rw [Names.without_map_text]
    congr 1
    apply List.filter_eq_self.mpr
    intro key hmem
    rw [Bool.not_eq_true', ← Bool.not_eq_true, Names.has_text]
    exact hk key hmem
  have htexts : (keys.map Name.text).find? (fun name => name.text?.isNone) = none := by
    rw [List.find?_eq_none]
    intro name hname
    obtain ⟨key, -, rfl⟩ := List.mem_map.mp hname
    simp [Name.text?]
  have hnames : (keys.map Name.text).filterMap Name.text? = keys := by
    rw [List.filterMap_map]
    exact List.filterMap_some
  rw [options, hkept, htexts, hnames]

/-- The words of an answer are the keys at hand that the fragment admits. -/
theorem mem_words (word : Text) :
    word ∈ query.words keys ↔
      ∃ key ∈ keys, word = Key.text key ∧ Search.Admits query.fragment word := by
  rw [words, Search.mem_rankedTexts, List.mem_mergeSort, List.mem_map]
  constructor
  · rintro ⟨⟨key, hk, rfl⟩, ha⟩
    exact ⟨key, hk, rfl, ha⟩
  · rintro ⟨key, hk, rfl, ha⟩
    exact ⟨⟨key, hk, rfl⟩, ha⟩

theorem words_eq_nil_iff :
    query.words keys = [] ↔ ∀ key ∈ keys, ¬ Search.Admits query.fragment (Key.text key) := by
  rw [List.eq_nil_iff_forall_not_mem]
  constructor
  · intro hempty key hk hadmit
    exact hempty (Key.text key) ((query.mem_words keys _).mpr ⟨key, hk, rfl, hadmit⟩)
  · intro hnone word hword
    obtain ⟨key, hk, rfl, hadmit⟩ := (query.mem_words keys word).mp hword
    exact hnone key hk hadmit

theorem pairwise_lt_texts (hk : keys.Nodup) :
    ((keys.map Key.text).mergeSort fun a b => a ≤ b).Pairwise (· < ·) :=
  Text.pairwise_lt_mergeSort _ (hk.map Key.text_injective)

theorem nodup_words (hk : keys.Nodup) : (query.words keys).Nodup :=
  Search.nodup_rankedTexts _ _ ((pairwise_lt_texts keys hk).imp fun hab => Std.ne_of_lt hab)

/-- Different keys are answered in the order of the ranking. -/
theorem pairwise_words (hk : keys.Nodup) :
    (query.words keys).Pairwise (Search.ComesBefore query.fragment) :=
  Search.pairwise_rankedTexts _ _ (pairwise_lt_texts keys hk)

end Words

end Query

/-- A completion by an index is the list of all its words, cut to the limit. -/
theorem complete_words (subject : Subject) (index : Index) (texts : List Text)
    (hs : subject.source = .ok (some ⟨index, none⟩)) (hi : index.idents = .ofTexts texts)
    (earlier : List Path) (query : Query) :
    ∃ keys : List Text, keys.Nodup ∧ (∀ key, key ∈ keys ↔ index.Offers query.token key) ∧
      ∀ limit bound, Limit.ofJson limit = .ok bound →
        (complete subject earlier query limit none).result =
          if query.words keys = [] then .ok none
          else (bound.cut (query.words keys)).map fun words =>
            some ⟨words, query.span.1, query.span.2⟩ := by
  have hanswer (keys : List Text) (hk : ∀ key ∈ keys, .text key ∉ index.ignored) (bound : Limit) :=
    query.answer_of_options bound index.ignored _ _ (Query.options_map_text keys index.ignored hk)
  cases hc : Context.ofToken? index query.token with
  | none =>
    refine ⟨[], List.nodup_nil, ?_, ?_⟩
    · intro key
      simp [Index.Offers, hc]
    · intro limit bound hl
      simp only [complete, hl, hs, hc, Discovered.nothing]
      exact hanswer [] (fun _ h => absurd h List.not_mem_nil) bound
  | some context =>
    obtain ⟨keys, hnodup, hmem, hfound⟩ :=
      index.discovered_keys texts hi subject.owner earlier context
    have hoffers (key : Text) : key ∈ keys ↔ index.Offers query.token key := by
      rw [hmem, Index.Offers, hc]
      simp
    have hkept (key : Text) (hk : key ∈ keys) : .text key ∉ index.ignored := by
      have hoffered := ((hmem key).mp hk).2
      cases context with
      | ident => exact hoffered.2
      | attributes path => exact hoffered.2.2
    refine ⟨keys, hnodup, hoffers, ?_⟩
    intro limit bound hl
    simp only [complete, hl, hs, hc, hfound]
    exact hanswer keys hkept bound

/-- Whatever source, cache and limit, no candidate is ignored. -/
theorem complete_not_ignored (subject : Subject) (source : Source)
    (hs : subject.source = .ok (some source)) (earlier : List Path) (query : Query) (limit : Json)
    (cache : Option Cache) (c : Completion)
    (hc : (complete subject earlier query limit cache).result = .ok (some c))
    (key : Text) (hk : .text key ∈ source.index.ignored) : Key.text key ∉ c.candidates := by
  cases hl : Limit.ofJson limit with
  | error fault =>
    simp only [complete, hl] at hc
    cases hc
  | ok bound =>
    simp only [complete, hl, hs] at hc
    exact query.answer_not_ignored bound source.index.ignored _ c hc key hk

/-- Completions are sound and complete. An index without a hook whose idents are texts answers with the
texts of all keys that it offers at the token and that the fragment admits, each once and in order, and
with nothing where there are none. A limit leaves the first of them and the same span. No key that the
index ignores is ever a candidate, also with a hook and with a cache. -/
theorem complete_sound_complete (subject : Subject) (index : Index) (texts : List Text)
    (hs : subject.source = .ok (some ⟨index, none⟩)) (hi : index.idents = .ofTexts texts)
    (earlier : List Path) (query : Query) :
    (∃ words : List Text,
      (∀ word, word ∈ words ↔ ∃ key, index.Offers query.token key ∧ word = Key.text key ∧
        Search.Admits query.fragment word) ∧
      words.Nodup ∧ words.Pairwise (Search.ComesBefore query.fragment) ∧
      (complete subject earlier query .null none).result =
        .ok (if words = [] then none else some ⟨words, query.span.1, query.span.2⟩) ∧
      ∀ n : Int, 1 ≤ n → (complete subject earlier query (.int n) none).result =
        .ok (if words = [] then none
          else some ⟨words.take (min n.toNat words.length), query.span.1, query.span.2⟩)) ∧
    ((complete subject earlier query .null none).result = .ok none ↔
      ∀ key, index.Offers query.token key → ¬ Search.Admits query.fragment (Key.text key)) ∧
    (∀ (other : Subject) (hook : Option Hook), other.source = .ok (some ⟨index, hook⟩) →
      ∀ (earlier : List Path) (limit : Json) (cache : Option Cache) (c : Completion),
        (complete other earlier query limit cache).result = .ok (some c) →
        ∀ key, .text key ∈ index.ignored → Key.text key ∉ c.candidates) := by
  obtain ⟨keys, hnodup, hoffers, hresult⟩ := complete_words subject index texts hs hi earlier query
  have hmem (word : Text) : word ∈ query.words keys ↔ ∃ key, index.Offers query.token key ∧
      word = Key.text key ∧ Search.Admits query.fragment word := by
    simp only [query.mem_words keys, hoffers]
  have hall : (complete subject earlier query .null none).result =
      .ok (if query.words keys = [] then none
        else some ⟨query.words keys, query.span.1, query.span.2⟩) := by
    rw [hresult .null .unlimited rfl]
    split_ifs <;> rfl
  refine ⟨⟨query.words keys, hmem, query.nodup_words keys hnodup, query.pairwise_words keys hnodup,
    hall, ?_⟩, ?_, ?_⟩
  · intro n hn
    have hlimit : Limit.ofJson (.int n) = .ok (.atMost n.toNat) := by
      rw [Limit.ofJson, Limit.ofInt, if_pos hn]
    rw [hresult (.int n) (.atMost n.toNat) hlimit, ← List.take_eq_take_min]
    split_ifs <;> rfl
  · have hempty := query.words_eq_nil_iff keys
    simp only [hoffers] at hempty
    rw [hall, ← hempty]
    by_cases hwords : query.words keys = [] <;> simp [hwords]
  · intro other hook hother earlier limit cache c hc
    exact complete_not_ignored other ⟨index, hook⟩ hother earlier query limit cache c hc

def offeringIndex : Index where
  rules := .table [⟨[], .ofKeys ["app/users", "app/version"], by decide⟩,
    ⟨["app/version"], .ofKeys ["user/name", ">/group"], by decide⟩]
  idents := .ofTexts ["user/id"]
  ignored := [.text "app/version"]

def offeringQuery : Query where
  token := ⟨"us", 3, 5, .atom, [.mk (some .attrList) .absent 2, .mk (some .join) (.text ":>/group") 1,
    .mk (some .attrList) .absent 0]⟩
  fragment := "us"
  cursor := none

theorem complete_sound_complete_placeholder :
    (Subject.held 0 ⟨offeringIndex, none⟩).source = .ok (some ⟨offeringIndex, none⟩) ∧
    offeringIndex.idents = .ofTexts ["user/id"] ∧
    ∃ c, (complete (.held 0 ⟨offeringIndex, none⟩) [] offeringQuery .null none).result = .ok (some c) ∧
      Key.text "user/name" ∈ c.candidates ∧ Key.text "app/version" ∉ c.candidates ∧
      (1 : Int) ≤ 1 ∧
      (complete (.held 0 ⟨offeringIndex, none⟩) [] offeringQuery (.int 1) none).result =
        .ok (some ⟨c.candidates.take (min 1 c.candidates.length), 3, 5⟩) := by
  obtain ⟨⟨words, hmem, -, -, hall, hcut⟩, -, hignored⟩ := complete_sound_complete
    (.held 0 ⟨offeringIndex, none⟩) offeringIndex ["user/id"] rfl rfl [] offeringQuery
  have hoffers : offeringIndex.Offers offeringQuery.token "user/name" :=
    ⟨rfl, .attributes [">/group"], by decide +kernel, by decide +kernel, by decide, by decide⟩
  have hword : Key.text "user/name" ∈ words :=
    (hmem _).mpr ⟨"user/name", hoffers, rfl, Or.inr ⟨by decide, by decide +kernel⟩⟩
  have hsome : words ≠ [] := List.ne_nil_of_mem hword
  rw [if_neg hsome] at hall
  refine ⟨rfl, rfl, _, hall, hword, ?_, le_refl 1, ?_⟩
  · exact hignored _ none rfl [] .null none _ hall "app/version" (by decide)
  · rw [hcut 1 (le_refl 1), if_neg hsome]
    rfl

end QueryHints
