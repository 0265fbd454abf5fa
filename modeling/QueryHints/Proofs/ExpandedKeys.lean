import QueryHints.Editor
import QueryHints.Proofs.ExactAnswers
import QueryHints.Proofs.FramePositions
import QueryHints.Proofs.RuleContents

namespace QueryHints

/-- The frames of a token in the body of the join that an attribute becomes: a list in a join that has the
attribute's text as its key, where the attribute was. -/
def Editor.InBodyOf (token inside : Token) : Prop :=
  ∃ list join : Frame, list.mode = some .attrList ∧ join.mode = some .join ∧
    join.key = .text token.text ∧ inside.frames = list :: join :: token.frames

def plainPath (path : List Text) : List Text :=
  path.filter fun key => !Key.isPlaceholder key

namespace Index

variable (index : Index) (hw : index.isWellFormed = true)

include hw

/-- What stands below a key one level further out is offered inside the key. -/
theorem keys_below_subset (path : List Text) (key : Text) (below : Tree)
    (hb : (index.treeAt path).below? key = some below) (child : Text) (hc : child ∈ below.keys) :
    child ∈ (index.treeAt (key :: path)).keys := by
  cases hr : index.rules with
  | unusable v => simp [isWellFormed, hr] at hw
  | table rules =>
    have hinside : index.treeAt (key :: path) =
        Schema.close rules (((index.treeAt path).below? key).getD .empty) := by
      simp only [treeAt, hr]
      rfl
    rw [hinside, hb]
    exact Schema.keys_subset_of_le (Schema.le_close rules below) child hc

/-- Inside a key, what stands below it is offered, except placeholders and what is ignored. -/
theorem offersIn_of_below (path : List Text) (key : Text) (hp : Key.isPlaceholder key = false)
    (below : Tree) (hb : (index.treeAt (plainPath path)).below? key = some below) (child : Text)
    (hc : child ∈ below.keys) (hplain : Key.isPlaceholder child = false)
    (hkept : .text child ∉ index.ignored) : index.OffersIn (.attributes (key :: path)) child := by
  have hpath : plainPath (key :: path) = key :: plainPath path := by
    simp [plainPath, hp]
  refine ⟨?_, hplain, hkept⟩
  change child ∈ (index.treeAt (plainPath (key :: path))).keys
  rw [hpath]
  exact index.keys_below_subset hw (plainPath path) key below hb child hc

omit hw in
/-- What is discovered in a path: the texts of the keys that are offered there, and nothing else. -/
theorem discovered_names (subject : Subject) (hs : subject.source = .ok (some ⟨index, none⟩))
    (earlier : List Path) (path : List Text) :
    ∃ discovered, discover subject earlier (some (.attributes path)) none = .ok discovered ∧
      ∀ name, name ∈ discovered.found ↔
        index.isWellFormed = true ∧ ∃ key, name = .text key ∧ index.OffersIn (.attributes path) key := by
  refine ⟨Source.discover ⟨index, none⟩ subject.owner earlier (.attributes path) none, ?_, ?_⟩
  · simp only [discover, hs]
    rfl
  · intro name
    cases hw : index.isWellFormed with
    | false =>
      rw [Source.discover_malformed ⟨index, none⟩ subject.owner earlier _ hw]
      simp [Discovered.nothing]
    | true =>
      obtain ⟨keys, -, hmem, hfound⟩ := index.explored_attributes earlier path
      rw [Source.discover_uncached ⟨index, none⟩ subject.owner earlier _ hw, hfound]
      simp only [List.mem_map, hmem, true_and]
      constructor
      · rintro ⟨key, ho, rfl⟩
        exact ⟨key, rfl, ho⟩
      · rintro ⟨key, rfl, ho⟩
        exact ⟨key, ho, rfl⟩

/-- Discovery inside a path finds what the index offers there. -/
theorem discover_attributes (subject : Subject) (hs : subject.source = .ok (some ⟨index, none⟩))
    (earlier : List Path) (path : List Text) :
    ∃ discovered, discover subject earlier (some (.attributes path)) none = .ok discovered ∧
      ∀ key, .text key ∈ discovered.found ↔ index.OffersIn (.attributes path) key := by
  obtain ⟨discovered, hd, hmem⟩ := index.discovered_names subject hs earlier path
  refine ⟨discovered, hd, ?_⟩
  intro key
  rw [hmem]
  simp [hw]

omit hw in
/-- What the root knows is known inside every path. -/
theorem hasKey_of_knowsAtRoot (path : List Text) (key : Text) (hk : index.knowsAtRoot key = true) :
    (index.treeAt path).hasKey key = true := by
  cases hr : index.rules with
  | unusable v => simp [knowsAtRoot, hr] at hk
  | table rules =>
    obtain ⟨rule, hrule, hinputs, hpath⟩ := Schema.gives_of_knowsAtRoot rules index hr key hk
    have houtputs := Schema.closed_treeAt rules path rule hrule (by simp [hinputs])
    simp only [treeAt, hr]
    rw [Tree.hasKey_eq_hasPath]
    exact houtputs [key] hpath

end Index

/-- An attribute that can be expanded has something below it where its token is. -/
theorem Editor.below_of_isExpandable (subject : Subject) (index : Index)
    (hs : subject.source = .ok (some ⟨index, none⟩)) (token : Token)
    (hp : Key.isPlaceholder (Key.ofText token.text) = false)
    (he : Editor.isExpandable subject token = .ok true) (path : List Text)
    (hc : Context.ofToken? index token = some (.attributes path)) :
    ∃ below, (index.treeAt (plainPath path)).below? (Key.ofText token.text) = some below ∧
      below.isEmpty = false := by
  by_cases hk : token.kind = .atom
  · simp only [isExpandable, hk, hp, hs, hasBelow, hc, Except.map] at he
    simp only [ne_eq, not_true_eq_false, if_false, Bool.false_eq_true, Except.ok.injEq,
      Bool.and_eq_true, Option.any_eq_true, Bool.not_eq_true'] at he
    exact he.2
  · simp [isExpandable, hk] at he

/-- Inside an expanded attribute. What stands below an attribute that can be expanded is offered inside the
join that it becomes, unless the root knows the attribute and it stands inside a join that is no
placeholder. Where the root knows it, what stands below it at the root is offered. Placeholders and ignored
keys are never offered. -/
theorem expanded_offers_children (subject : Subject) (index : Index)
    (hs : subject.source = .ok (some ⟨index, none⟩)) (hw : index.isWellFormed = true)
    (token : Token) (list : Frame) (outer : List Frame) (hf : token.frames = list :: outer)
    (hl : list.mode = some .attrList) (hp : Key.isPlaceholder (Key.ofText token.text) = false)
    (he : Editor.isExpandable subject token = .ok true)
    (inside : Token) (hi : Editor.InBodyOf token inside) (earlier : List Path) :
    ∃ path below discovered,
      Context.ofToken? index token = some (.attributes path) ∧
      (index.treeAt (plainPath path)).below? (Key.ofText token.text) = some below ∧
      below.isEmpty = false ∧
      discover subject earlier (Context.ofToken? index inside) none = .ok discovered ∧
      (index.knowsAtRoot (Key.ofText token.text) = false ∨ plainPath path = [] →
        ∀ child ∈ below.keys, Key.isPlaceholder child = false → .text child ∉ index.ignored →
          .text child ∈ discovered.found) ∧
      (index.knowsAtRoot (Key.ofText token.text) = true →
        ∃ atRoot, (index.treeAt []).below? (Key.ofText token.text) = some atRoot ∧
          ∀ child ∈ atRoot.keys, Key.isPlaceholder child = false → .text child ∉ index.ignored →
            .text child ∈ discovered.found) := by
  have hc : Context.ofToken? index token = some (.attributes (Context.climb index outer)) := by
    rw [Context.ofToken?, hf, Context.ofFrames?_of_attrList index list outer _ hl]
  obtain ⟨body, join, hbody, hjoin, hkey, hframes⟩ := hi
  have hinside : Context.ofToken? index inside = some (.attributes
      (if index.knowsAtRoot (Key.ofText token.text) then [Key.ofText token.text]
        else Key.ofText token.text :: Context.climb index outer)) := by
    rw [Context.ofToken?, hframes, Context.ofFrames?_of_attrList index body _ _ hbody, hf,
      Context.climb_of_join index join outer hjoin token.text hkey list]
  obtain ⟨below, hbelow, hfull⟩ := Editor.below_of_isExpandable subject index hs token hp he _ hc
  cases hk : index.knowsAtRoot (Key.ofText token.text) with
  | false =>
    rw [hk, if_neg Bool.false_ne_true] at hinside
    obtain ⟨discovered, hd, hmem⟩ := index.discover_attributes hw subject hs earlier
      (Key.ofText token.text :: Context.climb index outer)
    refine ⟨_, below, discovered, hc, hbelow, hfull, by rw [hinside, hd], ?_, ?_⟩
    · intro _ child hchild hplain hkept
      exact (hmem child).mpr (index.offersIn_of_below hw _ _ hp below hbelow child hchild hplain hkept)
    · intro h
      cases h
  | true =>
    rw [hk, if_pos rfl] at hinside
    obtain ⟨discovered, hd, hmem⟩ := index.discover_attributes hw subject hs earlier
      [Key.ofText token.text]
    have hoffered (atRoot : Tree) (hroot : (index.treeAt []).below? (Key.ofText token.text) = some atRoot)
        (child : Text) (hchild : child ∈ atRoot.keys) (hplain : Key.isPlaceholder child = false)
        (hkept : .text child ∉ index.ignored) : .text child ∈ discovered.found :=
      (hmem child).mpr (index.offersIn_of_below hw [] _ hp atRoot hroot child hchild hplain hkept)
    refine ⟨_, below, discovered, hc, hbelow, hfull, by rw [hinside, hd], ?_, ?_⟩
    · -- without a join around it that counts, the attribute stands at the root
      rintro (h | hempty)
      · cases h
      · rw [hempty] at hbelow
        exact hoffered below hbelow
    · intro _
      have hkeyed := index.hasKey_of_knowsAtRoot [] (Key.ofText token.text) hk
      obtain ⟨atRoot, hroot⟩ := Option.isSome_iff_exists.mp hkeyed
      exact ⟨atRoot, hroot, hoffered atRoot hroot⟩

def friendsIndex (known : Bool) : Index where
  rules := .table [⟨[], .node "app/users" (.node "user/friends" (.ofKeys ["user/name"]) .empty)
    (if known then .node "user/friends" (.ofKeys ["user/id"]) .empty else .empty),
    by cases known <;> decide⟩]
  idents := []
  ignored := []

def friendsToken : Token :=
  ⟨":user/friends", 14, 27, .atom, [.mk (some .attrList) .absent 13,
    .mk (some .join) (.text ":app/users") 1, .mk (some .attrList) .absent 0]⟩

def friendToken : Token :=
  ⟨":us", 30, 33, .atom, .mk (some .attrList) .absent 29 ::
    .mk (some .join) (.text ":user/friends") 14 :: friendsToken.frames⟩

/-- Where the root does not know friends, the names of a user's friends are offered. -/
theorem expanded_offers_children_of_friends :
    Editor.isExpandable (.held 0 ⟨friendsIndex false, none⟩) friendsToken = .ok true ∧
    Editor.InBodyOf friendsToken friendToken ∧
    ∃ discovered, discover (.held 0 ⟨friendsIndex false, none⟩) []
        (Context.ofToken? (friendsIndex false) friendToken) none = .ok discovered ∧
      .text "user/name" ∈ discovered.found := by
  have he : Editor.isExpandable (.held 0 ⟨friendsIndex false, none⟩) friendsToken = .ok true := by
    decide +kernel
  have hi : Editor.InBodyOf friendsToken friendToken := ⟨_, _, rfl, rfl, rfl, rfl⟩
  obtain ⟨path, below, discovered, hc, hbelow, -, hd, hchildren, -⟩ :=
    expanded_offers_children (.held 0 ⟨friendsIndex false, none⟩) (friendsIndex false) rfl rfl
      friendsToken _ _ rfl rfl (by decide) he friendToken hi []
  have hpath : path = ["app/users"] := by
    have h : Context.ofToken? (friendsIndex false) friendsToken =
        some (.attributes ["app/users"]) := by decide +kernel
    rw [h] at hc
    cases hc
    rfl
  have hname : (((friendsIndex false).treeAt (plainPath path)).below?
      (Key.ofText friendsToken.text)).any (fun below => below.keys.contains "user/name") = true := by
    rw [hpath]
    decide +kernel
  rw [hbelow, Option.any_some, List.contains_iff_mem] at hname
  exact ⟨he, hi, discovered, hd, hchildren (Or.inl (by decide +kernel)) "user/name" hname (by decide)
    List.not_mem_nil⟩

/-- Where it does, they are not, although the friends can be expanded and have names below them. -/
theorem expanded_loses_children :
    Editor.isExpandable (.held 0 ⟨friendsIndex true, none⟩) friendsToken = .ok true ∧
    Context.ofToken? (friendsIndex true) friendsToken = some (.attributes ["app/users"]) ∧
    Editor.InBodyOf friendsToken friendToken ∧
    ("user/name" : Text) ∈
      ((((friendsIndex true).treeAt ["app/users"]).below? "user/friends").getD .empty).keys ∧
    Key.isPlaceholder "user/name" = false ∧ .text "user/name" ∉ (friendsIndex true).ignored ∧
    ∃ discovered, discover (.held 0 ⟨friendsIndex true, none⟩) []
        (Context.ofToken? (friendsIndex true) friendToken) none = .ok discovered ∧
      .text "user/name" ∉ discovered.found := by
  refine ⟨by decide +kernel, by decide +kernel, ⟨_, _, rfl, rfl, rfl, rfl⟩, by decide +kernel, by decide,
    List.not_mem_nil, ?_⟩
  have hc : Context.ofToken? (friendsIndex true) friendToken = some (.attributes ["user/friends"]) := by
    decide +kernel
  rw [hc]
  exact ⟨_, rfl, by decide +kernel⟩

end QueryHints
