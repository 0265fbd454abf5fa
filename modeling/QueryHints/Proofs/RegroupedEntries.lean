import Mathlib.Logic.Relation
import QueryHints.Proofs.ExactAnswers
import QueryHints.Proofs.FramePositions
import QueryHints.Proofs.RearrangedValues
import QueryHints.Proofs.RuleContents

namespace QueryHints

namespace Schema

open Json (Fields)

def EntryGives (entry : Fields) (inputs path : List Text) : Prop :=
  Rule.inputSet (Fields.get entry "inputs").inputsListed = inputs ∧
    (Tree.ofJson (Fields.get entry "outputs")).hasPath path = true

def EntriesGive (entries : List Json) (inputs path : List Text) : Prop :=
  ∃ entry, .object entry ∈ entries ∧ EntryGives entry inputs path

section Reading

variable (limits : Limits)

theorem readRule_eq (inputs : List Text) (v : Json) (rule : Rule) (h : readRule limits inputs v = .ok rule) :
    rule.inputs = Rule.inputSet inputs ∧ rule.outputs = .ofJson v := by
  unfold readRule at h
  split at h
  · cases h
  · cases h
    exact ⟨rfl, rfl⟩

/-- Reading goes entry by entry: the rule of the first is added, and then the others are read. -/
theorem readEntries_cons (rules result : List Rule) (first : Json) (rest : List Json)
    (h : readEntries limits rules (first :: rest) = .ok result) :
    ∃ entry rule, first = .object entry ∧
      (∀ inputs path, EntryGives entry inputs path ↔
        rule.inputs = inputs ∧ rule.outputs.hasPath path = true) ∧
      readEntries limits (addRule Rule.joinedWith rule rules) rest = .ok result := by
  cases first with
  | object entry =>
    rw [readEntries] at h
    cases hi : readInputs limits (Fields.get entry "inputs") with
    | error fault => simp [hi] at h
    | ok inputs =>
      cases hrule : readRule limits inputs (Fields.get entry "outputs") with
      | error fault => simp [hi, hrule] at h
      | ok rule =>
        simp only [hi, hrule] at h
        obtain ⟨hinputs, houtputs⟩ := readRule_eq limits inputs _ rule hrule
        refine ⟨entry, rule, rfl, ?_, h⟩
        intro set path
        rw [EntryGives, hinputs, houtputs, readInputs_eq_listed limits _ inputs hi]
  | null | bool _ | int _ | real _ | text _ | list _ => cases h

/-- Reading adds what the entries give to what the rules give already. -/
theorem gives_readEntries (entries : List Json) (rules result : List Rule)
    (h : readEntries limits rules entries = .ok result) (inputs path : List Text) :
    Gives result inputs path ↔ Gives rules inputs path ∨ EntriesGive entries inputs path := by
  induction entries generalizing rules with
  | nil =>
    cases h
    simp [EntriesGive]
  | cons first rest ih =>
    obtain ⟨entry, rule, rfl, hentry, hrest⟩ := readEntries_cons limits rules result first rest h
    rw [ih _ hrest, gives_addRule, ← hentry, or_assoc]
    simp [EntriesGive]

/-- Entries with equal inputs become one rule. -/
theorem separate_readEntries (entries : List Json) (rules result : List Rule) (hs : Separate rules)
    (h : readEntries limits rules entries = .ok result) : Separate result := by
  induction entries generalizing rules with
  | nil =>
    cases h
    exact hs
  | cons first rest ih =>
    obtain ⟨entry, rule, -, -, hrest⟩ := readEntries_cons limits rules result first rest h
    exact ih _ (separate_addRule rule rules Rule.joinedWith (fun _ hi => hi) hs) hrest

end Reading

/-- Entries that have the inputs of one entry each, and its outputs together: merged, they are the same
nested map. -/
structure PartsOf (entry : Fields) (parts : List Fields) : Prop where
  inputs : ∀ part ∈ parts, ∀ input, input ∈ (Fields.get part "inputs").inputsListed ↔
    input ∈ (Fields.get entry "inputs").inputsListed
  outputs : Tree.SamePaths (.ofJson (Fields.get entry "outputs"))
    ((parts.map fun part => Tree.ofJson (Fields.get part "outputs")).foldl Tree.merge .empty)

/-- One change of the entries: another order of them, an entry once more, another order inside an entry, or
parts in the place of an entry. -/
inductive Regroups : List Json → List Json → Prop
  | order {entries others : List Json} (same : entries.Perm others) : Regroups entries others
  | again {entries : List Json} (entry : Json) (known : entry ∈ entries) :
      Regroups entries (entry :: entries)
  | inside (entry other : Fields) (rest : List Json)
      (inputs : (Fields.get entry "inputs").Rearranged (Fields.get other "inputs"))
      (outputs : (Fields.get entry "outputs").Rearranged (Fields.get other "outputs")) :
      Regroups (.object entry :: rest) (.object other :: rest)
  | split (entry : Fields) (parts : List Fields) (rest : List Json) (whole : PartsOf entry parts) :
      Regroups (.object entry :: rest) (parts.map .object ++ rest)

def Regrouped : List Json → List Json → Prop :=
  Relation.EqvGen Regroups

section Changing

theorem hasPath_foldl_merge (trees : List Tree) (hd : ∀ tree ∈ trees, tree.Distinct) (start : Tree)
    (path : List Text) : (trees.foldl Tree.merge start).hasPath path = true ↔
      start.hasPath path = true ∨ ∃ tree ∈ trees, tree.hasPath path = true := by
  induction trees generalizing start with
  | nil => simp
  | cons tree rest ih =>
    have hrest := ih fun other h => hd other (List.mem_cons_of_mem tree h)
    rw [List.foldl_cons, hrest, Tree.hasPath_merge _ _ (hd tree List.mem_cons_self), Bool.or_eq_true]
    simp [or_assoc]

theorem entriesGive_cons (entry : Fields) (rest : List Json) (inputs path : List Text) :
    EntriesGive (.object entry :: rest) inputs path ↔
      EntryGives entry inputs path ∨ EntriesGive rest inputs path := by
  simp [EntriesGive]

theorem entriesGive_append (entries others : List Json) (inputs path : List Text) :
    EntriesGive (entries ++ others) inputs path ↔
      EntriesGive entries inputs path ∨ EntriesGive others inputs path := by
  simp only [EntriesGive, List.mem_append, or_and_right, exists_or]

theorem entriesGive_parts (entry : Fields) (parts : List Fields) (hp : PartsOf entry parts)
    (inputs : List Text) (key : Text) (path : List Text) :
    EntriesGive (parts.map .object) inputs (key :: path) ↔ EntryGives entry inputs (key :: path) := by
  have hdistinct : ∀ tree ∈ parts.map fun part => Tree.ofJson (Fields.get part "outputs"),
      tree.Distinct := by
    intro tree ht
    obtain ⟨part, -, rfl⟩ := List.mem_map.mp ht
    exact Tree.distinct_ofJson _
  have houtputs : (Tree.ofJson (Fields.get entry "outputs")).hasPath (key :: path) = true ↔
      ∃ part ∈ parts, (Tree.ofJson (Fields.get part "outputs")).hasPath (key :: path) = true := by
    rw [hp.outputs, hasPath_foldl_merge _ hdistinct]
    simp
  have hset (part : Fields) (h : part ∈ parts) :
      Rule.inputSet (Fields.get part "inputs").inputsListed =
        Rule.inputSet (Fields.get entry "inputs").inputsListed :=
    Rule.inputSet_eq_of_mem_iff _ _ (hp.inputs part h)
  rw [EntryGives, houtputs]
  constructor
  · rintro ⟨part, hpart, hinputs, hpath⟩
    obtain ⟨known, hknown, heq⟩ := List.mem_map.mp hpart
    cases heq
    exact ⟨(hset part hknown).symm.trans hinputs, part, hknown, hpath⟩
  · rintro ⟨hinputs, part, hpart, hpath⟩
    exact ⟨part, List.mem_map.mpr ⟨part, hpart, rfl⟩, (hset part hpart).trans hinputs, hpath⟩

/-- No change of the entries makes a difference to what they give. -/
theorem entriesGive_of_regroups (entries others : List Json) (h : Regroups entries others)
    (inputs : List Text) (key : Text) (path : List Text) :
    EntriesGive entries inputs (key :: path) ↔ EntriesGive others inputs (key :: path) := by
  cases h with
  | order same => simp only [EntriesGive, same.mem_iff]
  | again entry known =>
    constructor
    · rintro ⟨fields, hf, hgives⟩
      exact ⟨fields, List.mem_cons_of_mem entry hf, hgives⟩
    · rintro ⟨fields, hf, hgives⟩
      rcases List.mem_cons.mp hf with rfl | hf
      · exact ⟨fields, known, hgives⟩
      · exact ⟨fields, hf, hgives⟩
  | inside entry other rest hinputs houtputs =>
    have hset := Rule.inputSet_eq_of_mem_iff _ _ (Json.mem_inputsListed _ _ hinputs)
    have htree := Tree.samePaths_ofJson _ _ houtputs
    simp only [entriesGive_cons, EntryGives, hset, htree (key :: path)]
  | split entry parts rest whole =>
    rw [entriesGive_cons, entriesGive_append, entriesGive_parts entry parts whole]

theorem entriesGive_of_regrouped (entries others : List Json) (h : Regrouped entries others)
    (inputs : List Text) (key : Text) (path : List Text) :
    EntriesGive entries inputs (key :: path) ↔ EntriesGive others inputs (key :: path) := by
  induction h with
  | rel entries others h => exact entriesGive_of_regroups entries others h inputs key path
  | refl entries => exact Iff.rfl
  | symm entries others _ ih => exact ih.symm
  | trans entries between others _ _ first second => exact first.trans second

/-- So the rules that are read from them give the same. -/
theorem covers_of_regrouped (limits : Limits) (entries others : List Json) (h : Regrouped entries others)
    (rules rules' : List Rule) (hr : readEntries limits [] entries = .ok rules)
    (hr' : readEntries limits [] others = .ok rules') : Covers rules rules' := by
  intro inputs key path hgives
  rw [gives_readEntries limits _ _ _ hr, entriesGive_of_regrouped _ _ h] at hgives
  rw [gives_readEntries limits _ _ _ hr']
  exact hgives

end Changing

end Schema

/-- Indexes that answer alike: as to what the root knows, what stands inside a path, and which texts are
idents or ignored. -/
structure Index.Alike (index other : Index) : Prop where
  formed : index.isWellFormed = other.isWellFormed
  roots : ∀ key, index.knowsAtRoot key = other.knowsAtRoot key
  trees : ∀ path, Tree.SamePaths (index.treeAt path) (other.treeAt path)
  idents : ∀ s, .text s ∈ index.idents ↔ .text s ∈ other.idents
  ignored : ∀ s, .text s ∈ index.ignored ↔ .text s ∈ other.ignored

section Answering

variable (index other : Index) (h : index.Alike other)

include h

theorem Context.climb_alike (frames : List Frame) : climb index frames = climb other frames := by
  have hroots : index.knowsAtRoot = other.knowsAtRoot := funext h.roots
  have hunknown : unknownKey? index = unknownKey? other := by
    funext frame
    rw [unknownKey?, unknownKey?, hroots]
  have hanchor : anchorKey? index = anchorKey? other := by
    funext frame
    rw [anchorKey?, anchorKey?, hroots]
  calc climb index frames = walk index frames 0 := climb_drop index frames 0
    _ = walk other frames 0 := by rw [walk, walk, passed, passed, hunknown, hanchor]
    _ = climb other frames := (climb_drop other frames 0).symm

/-- A context depends on an index only by what the root knows. -/
theorem Context.ofFrames?_alike (text : Option Text) (frames : List Frame) :
    ofFrames? index text frames = ofFrames? other text frames := by
  induction frames generalizing text with
  | nil => rfl
  | cons frame outer ih => simp only [ofFrames?, climb_alike index other h, ih]

theorem Index.offersIn_alike (context : Context) (key : Text) :
    index.OffersIn context key ↔ other.OffersIn context key := by
  cases context with
  | ident => rw [OffersIn, OffersIn, h.idents, h.ignored]
  | attributes path =>
    have hkey : key ∈ (index.treeAt (path.filter fun around => !Key.isPlaceholder around)).keys ↔
        key ∈ (other.treeAt (path.filter fun around => !Key.isPlaceholder around)).keys := by
      rw [Tree.mem_keys, Tree.mem_keys, Tree.hasKey_eq_hasPath, Tree.hasKey_eq_hasPath, h.trees]
    rw [OffersIn, OffersIn, hkey, h.ignored]

/-- Indexes that are alike offer the same keys at every token. -/
theorem Index.offers_alike (token : Token) (key : Text) :
    index.Offers token key ↔ other.Offers token key := by
  have hcontext : Context.ofToken? index token = Context.ofToken? other token :=
    Context.ofFrames?_alike index other h (some token.text) token.frames
  rw [Offers, Offers, h.formed, hcontext]
  simp only [Index.offersIn_alike index other h]

omit h in
theorem Query.words_eq_of_mem_iff (query : Query) (keys others : List Text) (hk : keys.Nodup)
    (ho : others.Nodup) (hmem : ∀ key, key ∈ keys ↔ key ∈ others) :
    query.words keys = query.words others := by
  have hsorted := Text.mergeSort_eq_of_mem_iff (keys.map Key.text) (others.map Key.text)
    (hk.map Key.text_injective) (ho.map Key.text_injective) (by simp [hmem])
  rw [words, words, hsorted]

/-- Indexes that answer alike, and whose idents are texts, complete every query alike. -/
theorem complete_alike (texts others : List Text) (hi : index.idents = .ofTexts texts)
    (ho : other.idents = .ofTexts others) (subject subject' : Subject)
    (hs : subject.source = .ok (some ⟨index, none⟩)) (hs' : subject'.source = .ok (some ⟨other, none⟩))
    (earlier earlier' : List Path) (query : Query) (limit : Json) :
    (complete subject earlier query limit none).result =
      (complete subject' earlier' query limit none).result := by
  obtain ⟨keys, hnodup, hoffers, hresult⟩ := complete_words subject index texts hs hi earlier query
  obtain ⟨keys', hnodup', hoffers', hresult'⟩ := complete_words subject' other others hs' ho earlier' query
  have hwords : query.words keys = query.words keys' := by
    apply query.words_eq_of_mem_iff keys keys' hnodup hnodup'
    intro key
    rw [hoffers, hoffers', index.offers_alike other h]
  cases hl : Limit.ofJson limit with
  | error fault => simp only [complete, hl]
  | ok bound => rw [hresult limit bound hl, hresult' limit bound hl, hwords]

end Answering

namespace Index

open Json (Fields)

def rulesField (fields : Fields) : Json :=
  (Fields.either? fields "index-io" "index_io").getD .null

def ignoredField (fields : Fields) : Json :=
  (Fields.either? fields "autocomplete-ignore" "autocomplete_ignore").getD .null

def HasTextNames (fields : Fields) : Prop :=
  (Fields.get fields "idents").ListsTexts ∧ (ignoredField fields).ListsTexts

/-- The fields of two indexes that list their rules, and differ in the order and the grouping of entries and
in the order of names. -/
structure Regrouped (fields others : Fields) : Prop where
  entries : ∃ entries entries', rulesField fields = .list entries ∧ rulesField others = .list entries' ∧
    Schema.Regrouped entries entries'
  idents : (Fields.get fields "idents").Rearranged (Fields.get others "idents")
  ignored : (ignoredField fields).Rearranged (ignoredField others)

theorem ofJson_eq_ok (limits : Limits) (fields : Fields) (index : Index)
    (h : ofJson limits (.object fields) = .ok index) :
    Schema.readRules limits (rulesField fields) = .ok index.rules ∧
      Schema.readNames (Fields.get fields "idents") = .ok index.idents ∧
      Schema.readNames (ignoredField fields) = .ok index.ignored := by
  rw [ofJson, ofFields] at h
  change (Schema.readRules limits (rulesField fields) >>= fun rules =>
    Schema.readNames (Fields.get fields "idents") >>= fun idents =>
      Schema.readNames (ignoredField fields) >>= fun ignored =>
        pure (⟨rules, idents, ignored⟩ : Index)) = .ok index at h
  cases hr : Schema.readRules limits (rulesField fields) with
  | error fault => rw [hr] at h; cases h
  | ok rules =>
    cases hi : Schema.readNames (Fields.get fields "idents") with
    | error fault => rw [hr, hi] at h; cases h
    | ok idents =>
      cases hn : Schema.readNames (ignoredField fields) with
      | error fault => rw [hr, hi, hn] at h; cases h
      | ok ignored =>
        rw [hr, hi, hn] at h
        cases h
        exact ⟨rfl, rfl, rfl⟩

theorem rules_of_list (limits : Limits) (fields : Fields) (index : Index)
    (h : ofJson limits (.object fields) = .ok index) (entries : List Json) (he : rulesField fields = .list entries) :
    ∃ rules, index.rules = .table rules ∧ Schema.readEntries limits [] entries = .ok rules := by
  have hread := (ofJson_eq_ok limits fields index h).1
  rw [he, Schema.readRules] at hread
  cases hr : Schema.readEntries limits [] entries with
  | error fault => rw [hr] at hread; cases hread
  | ok rules =>
    rw [hr] at hread
    exact ⟨rules, (Except.ok.inj hread).symm, rfl⟩

theorem text_mem_of_rearranged (v w : Json) (h : v.Rearranged w) (hv : v.ListsTexts) (hw : w.ListsTexts)
    (names names' : Names) (hn : Schema.readNames v = .ok names) (hn' : Schema.readNames w = .ok names')
    (s : Text) : .text s ∈ names ↔ .text s ∈ names' := by
  rw [Schema.readNames_eq_listed v hv names hn, Schema.readNames_eq_listed w hw names' hn',
    Names.mem_ofTexts, Names.mem_ofTexts, Json.mem_textsListed v w h]

/-- Regrouped fields describe indexes that are alike. -/
theorem alike_of_regrouped (limits : Limits) (fields others : Fields) (index other : Index)
    (hf : ofJson limits (.object fields) = .ok index) (ho : ofJson limits (.object others) = .ok other)
    (ht : HasTextNames fields) (ht' : HasTextNames others) (hr : Regrouped fields others) :
    index.Alike other := by
  obtain ⟨entries, entries', he, he', hregrouped⟩ := hr.entries
  obtain ⟨rules, htable, hread⟩ := rules_of_list limits fields index hf entries he
  obtain ⟨rules', htable', hread'⟩ := rules_of_list limits others other ho entries' he'
  have hto := Schema.covers_of_regrouped limits entries entries' hregrouped rules rules' hread hread'
  have hfrom := Schema.covers_of_regrouped limits entries' entries (.symm _ _ hregrouped) rules' rules hread' hread
  have hs := Schema.separate_readEntries limits entries [] rules List.nodup_nil hread
  have hs' := Schema.separate_readEntries limits entries' [] rules' List.nodup_nil hread'
  obtain ⟨-, hidents, hignored⟩ := ofJson_eq_ok limits fields index hf
  obtain ⟨-, hidents', hignored'⟩ := ofJson_eq_ok limits others other ho
  refine ⟨?_, ?_, ?_, ?_, ?_⟩
  · simp only [isWellFormed, htable, htable']
  · intro key
    rw [Bool.eq_iff_iff, Schema.knowsAtRoot_iff_gives rules index htable key hs,
      Schema.knowsAtRoot_iff_gives rules' other htable' key hs']
    exact ⟨hto [] key [], hfrom [] key []⟩
  · intro path keys
    simp only [treeAt, htable, htable']
    exact Schema.hasPath_treeAt_of_covers rules rules' hto hfrom path keys
  · exact text_mem_of_rearranged _ _ hr.idents ht.1 ht'.1 _ _ hidents hidents'
  · exact text_mem_of_rearranged _ _ hr.ignored ht.2 ht'.2 _ _ hignored hignored'

/-- The order and the grouping of entries make no difference. Two indexes that are read from lists of
entries, and differ only in these and in the order of names, know the same keys at the root, have the same
nested map inside every path, and complete every query with the same candidates in the same order for the
same span. -/
theorem regrouped_agrees (limits : Limits) (fields others : Fields) (index other : Index)
    (hf : ofJson limits (.object fields) = .ok index) (ho : ofJson limits (.object others) = .ok other)
    (ht : HasTextNames fields) (ht' : HasTextNames others) (hr : Regrouped fields others) :
    (∀ key, index.knowsAtRoot key = other.knowsAtRoot key) ∧
    (∀ path keys, (index.treeAt path).hasPath keys = (other.treeAt path).hasPath keys) ∧
    (∀ subject subject' : Subject, subject.source = .ok (some ⟨index, none⟩) →
      subject'.source = .ok (some ⟨other, none⟩) →
      ∀ (earlier earlier' : List Path) (query : Query) (limit : Json),
        (complete subject earlier query limit none).result =
          (complete subject' earlier' query limit none).result) := by
  have halike := alike_of_regrouped limits fields others index other hf ho ht ht' hr
  have hidents := Schema.readNames_eq_listed _ ht.1 _ (ofJson_eq_ok limits fields index hf).2.1
  have hidents' := Schema.readNames_eq_listed _ ht'.1 _ (ofJson_eq_ok limits others other ho).2.1
  refine ⟨halike.roots, halike.trees, ?_⟩
  intro subject subject' hs hs' earlier earlier' query limit
  exact complete_alike index other halike _ _ hidents hidents' subject subject' hs hs' earlier earlier'
    query limit

def entryOf (inputs : List Text) (outputs : Json) : Fields :=
  [("inputs", .list (inputs.map .text)), ("outputs", outputs)]

def rootOutputs : Json :=
  .object [("app/users", .object [("user/id", .object [])]), ("app/version", .object [])]

def usersOutputs : Json :=
  .object [("app/users", .object [("user/id", .object [])])]

def gathered : Fields :=
  [("index-io", .list [.object (entryOf [] rootOutputs),
      .object (entryOf ["user/id", "app/version"] (.list [.text "user/name", .text "user/age"]))]),
    ("idents", .list [.text "user/id", .text "app/id"])]

def scattered : Fields :=
  [("index-io", .list [.object (entryOf [] usersOutputs),
      .object (entryOf ["app/version", "user/id"] (.list [.text "user/age", .text "user/name"])),
      .object (entryOf [] (.list [.text "app/version"])), .object (entryOf [] usersOutputs)]),
    ("idents", .list [.text "app/id", .text "user/id"])]

theorem partsOf_root :
    Schema.PartsOf (entryOf [] rootOutputs)
      [entryOf [] usersOutputs, entryOf [] (.list [.text "app/version"])] := by
  refine ⟨?_, ?_⟩
  · intro part hp input
    rcases List.mem_cons.mp hp with rfl | hp
    · rfl
    · rw [List.mem_singleton.mp hp]
      rfl
  · have hmerged : Tree.ofJson rootOutputs =
        ((Tree.empty.merge (.ofJson usersOutputs)).merge (.ofJson (.list [.text "app/version"]))) := by
      decide +kernel
    intro path
    exact congrArg (Tree.hasPath path) hmerged

theorem regrouped_scattered : Regrouped gathered scattered := by
  refine ⟨⟨_, _, rfl, rfl, ?_⟩, .items (.swap _ _ []), .refl _⟩
  -- the first entry is split, the order turned round, the other entry rearranged, and a part repeated
  refine .trans _ _ _ (.rel _ _ (.split _ _ _ partsOf_root)) ?_
  refine .trans _ _ _ (.rel _ _ (.order (List.reverse_perm _).symm)) ?_
  refine .trans _ _ _ (.rel _ _ (.inside _ (entryOf ["app/version", "user/id"]
    (.list [.text "user/age", .text "user/name"])) _ (.items (.swap _ _ [])) (.items (.swap _ _ [])))) ?_
  exact .rel _ _ (.again (.object (entryOf [] usersOutputs)) (by simp))

theorem regrouped_agrees_scattered :
    ∃ index other, ofJson (.ofDepth 100) (.object gathered) = .ok index ∧
      ofJson (.ofDepth 100) (.object scattered) = .ok other ∧
      HasTextNames gathered ∧ HasTextNames scattered ∧ Regrouped gathered scattered ∧
      (∀ path keys, (index.treeAt path).hasPath keys = (other.treeAt path).hasPath keys) ∧
      ∀ query limit, (complete (.held 0 ⟨index, none⟩) [] query limit none).result =
        (complete (.held 1 ⟨other, none⟩) [] query limit none).result := by
  have htexts (texts : List Text) : (Json.list (texts.map .text)).ListsTexts := by
    intro items he item hi
    cases he
    obtain ⟨s, -, rfl⟩ := List.mem_map.mp hi
    exact ⟨s, rfl⟩
  have hnone : Json.null.ListsTexts := fun items he => nomatch he
  have hread : (ofJson (.ofDepth 100) (.object gathered)).toOption.isSome = true ∧
      (ofJson (.ofDepth 100) (.object scattered)).toOption.isSome = true := by decide +kernel
  cases hf : ofJson (.ofDepth 100) (.object gathered) with
  | error fault => simp [hf, Except.toOption] at hread
  | ok index =>
    cases ho : ofJson (.ofDepth 100) (.object scattered) with
    | error fault => simp [ho, Except.toOption] at hread
    | ok other =>
      have ht : HasTextNames gathered := ⟨htexts ["user/id", "app/id"], hnone⟩
      have ht' : HasTextNames scattered := ⟨htexts ["app/id", "user/id"], hnone⟩
      obtain ⟨-, htrees, hcomplete⟩ :=
        regrouped_agrees (.ofDepth 100) gathered scattered index other hf ho ht ht' regrouped_scattered
      exact ⟨index, other, rfl, rfl, ht, ht', regrouped_scattered, htrees,
        fun query limit => hcomplete _ _ rfl rfl [] [] query limit⟩

end Index

end QueryHints
