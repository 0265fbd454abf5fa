import Mathlib.Data.List.Induction
import QueryHints.Proofs.ExpandedKeys

namespace QueryHints

namespace Schema

variable (rules : List Rule)

theorem covers_refl : Covers rules rules :=
  fun _ _ _ h => h

theorem treeAt_le_append (path outer : List Text) :
    treeAt rules path ≤ treeAt rules (path ++ outer) := by
  induction path with
  | nil =>
    apply (close_leastClosed rules .empty).2
    refine ⟨?_, closed_treeAt rules outer⟩
    intro keys hp
    cases keys with
    | nil => exact Tree.hasPath_nil _
    | cons key rest => simp at hp
  | cons key path ih =>
    have hbelow := below_mono ih key
    exact close_mono rules rules (covers_refl rules) _ _ hbelow

end Schema

namespace Index

variable (index : Index)

theorem treeAt_le_append (path outer : List Text) :
    index.treeAt path ≤ index.treeAt (path ++ outer) := by
  cases hr : index.rules with
  | unusable v =>
    simp only [treeAt, hr]
    exact le_rfl
  | table rules =>
    simp only [treeAt, hr]
    exact Schema.treeAt_le_append rules path outer

/-- Whatever is reachable inside a path stays reachable with further joins around it. -/
theorem reachable_subset_append (path outer : List Text) :
    index.reachable path ⊆ index.reachable (path ++ outer) := by
  intro key hk
  exact Schema.keys_subset_of_le (index.treeAt_le_append path outer) key hk

theorem offersIn_append (path outer : List Text) (key : Text)
    (ho : index.OffersIn (.attributes path) key) : index.OffersIn (.attributes (path ++ outer)) key := by
  obtain ⟨hreach, hplain, hkept⟩ := ho
  refine ⟨?_, hplain, hkept⟩
  rw [List.filter_append]
  exact index.reachable_subset_append _ _ hreach

def rootless : Index :=
  ⟨.table [], [], []⟩

@[simp]
theorem knowsAtRoot_rootless (key : Text) : rootless.knowsAtRoot key = false := rfl

/-- The first path is the second, or ends before it with a key that the root knows. -/
def StopsShort (path full : List Text) : Prop :=
  path = full ∨ ∃ before key rest,
    path = before ++ [key] ∧ index.knowsAtRoot key = true ∧ full = path ++ rest

end Index

namespace Context

variable (index : Index)

/-- A join whose key is a text leads on, unless the root knows the key. Any other frame ends a climb in
every index alike. -/
theorem climb_cases (frame : Frame) :
    (∃ key, ∀ index outer, climb index (frame :: outer) =
      if index.knowsAtRoot key then [key] else key :: climb index (outer.drop 1)) ∨
    ∃ path, ∀ index outer, climb index (frame :: outer) = path := by
  by_cases hj : frame.mode = some .join
  · cases hk : frame.key with
    | text s =>
      refine Or.inl ⟨Key.ofText s, ?_⟩
      intro index outer
      cases outer with
      | nil => simp [climb, hj, hk]
      | cons list further => exact climb_of_join index frame further hj s hk list
    | absent => exact Or.inr ⟨[], fun index outer => by simp [climb, hj, hk]⟩
    | value v => exact Or.inr ⟨[], fun index outer => by simp [climb, hj, hk]⟩
    | frame inner around =>
      -- an ident as the key ends the path in every index, whatever the root knows
      refine Or.inr ⟨((FrameKey.frame inner around).identText?.map Key.ofText).toList, ?_⟩
      intro index outer
      have hunknown : unknownKey? index frame = none := by simp [unknownKey?, hj, hk, FrameKey.text?]
      rw [climb_of_not_unknown index frame outer hunknown]
      simp [anchorKey?, hj, hk, FrameKey.text?]
  · exact Or.inr ⟨[], fun index outer => climb_of_not_join index frame outer hj⟩

/-- That the root knows keys only makes a climb end earlier. -/
theorem climb_stopsShort (frames : List Frame) :
    index.StopsShort (climb index frames) (climb .rootless frames) := by
  -- a climb takes two frames at a time
  induction frames using List.twoStepInduction with
  | nil => exact Or.inl (by simp [climb])
  | singleton frame =>
    rcases climb_cases frame with ⟨key, hclimb⟩ | ⟨path, hclimb⟩
    · rw [hclimb, hclimb]
      left
      simp [climb]
    · rw [hclimb, hclimb]
      exact Or.inl rfl
  | cons_cons frame list outer ih _ =>
    rcases climb_cases frame with ⟨key, hclimb⟩ | ⟨path, hclimb⟩
    · -- both climbs take the key, and only the first can end with it
      rw [hclimb, hclimb, Index.knowsAtRoot_rootless, if_neg Bool.false_ne_true]
      simp only [List.drop_succ_cons, List.drop_zero]
      split_ifs with hknown
      · exact Or.inr ⟨[], key, climb .rootless outer, rfl, hknown, rfl⟩
      · rcases ih with heq | ⟨before, last, rest, hpath, hlast, hfull⟩
        · exact Or.inl (by rw [heq])
        · exact Or.inr ⟨key :: before, last, rest, by rw [hpath]; rfl, hlast, by rw [hfull]; rfl⟩
    · rw [hclimb, hclimb]
      exact Or.inl rfl

/-- Where the climb starts does not depend on the index, so a path of a token ends early only as a climb
does. -/
theorem ofFrames?_stopsShort (text : Option Text) (frames : List Frame) (path : List Text)
    (hc : ofFrames? index text frames = some (.attributes path)) :
    ∃ full, ofFrames? .rootless text frames = some (.attributes full) ∧ index.StopsShort path full := by
  induction frames generalizing text with
  | nil =>
    cases hc
    exact ⟨[], rfl, Or.inl rfl⟩
  | cons frame outer ih =>
    rw [ofFrames?] at hc ⊢
    rcases hm : frame.mode with _ | mode
    · simp [hm] at hc
    · cases mode with
      | ident =>
        simp only [hm] at hc
        split_ifs at hc
        cases hc
      | join =>
        simp only [hm] at hc ⊢
        split_ifs at hc ⊢ with hopens
        all_goals
          cases hc
          exact ⟨_, rfl, climb_stopsShort index _⟩
      | attrList =>
        simp only [hm] at hc ⊢
        split_ifs at hc ⊢ with hnone
        · cases hc
          exact ⟨[], rfl, Or.inl rfl⟩
        · cases hc
          exact ⟨_, rfl, climb_stopsShort index outer⟩
      | paramExp =>
        simp only [hm] at hc ⊢
        exact ih none hc
      | other => simp [hm] at hc

end Context

namespace Index

variable (index : Index) (id : Nat) (earlier : List Path)

/-- What is found at a path that stops short is found at the full path as well. -/
theorem discover_subset_of_stopsShort (path full : List Text) (hs : index.StopsShort path full) :
    ∃ fewer more,
      discover (.held id ⟨index, none⟩) earlier (some (.attributes path)) none = .ok fewer ∧
      discover (.held id ⟨index, none⟩) earlier (some (.attributes full)) none = .ok more ∧
      fewer.found ⊆ more.found := by
  have hfull : ∃ outer, full = path ++ outer := by
    rcases hs with rfl | ⟨-, -, rest, -, -, hfull⟩
    · exact ⟨[], (List.append_nil path).symm⟩
    · exact ⟨rest, hfull⟩
  obtain ⟨outer, rfl⟩ := hfull
  obtain ⟨fewer, hfewer, hmem⟩ := index.discovered_names (.held id ⟨index, none⟩) rfl earlier path
  obtain ⟨more, hmore, hmem'⟩ := index.discovered_names (.held id ⟨index, none⟩) rfl earlier (path ++ outer)
  refine ⟨fewer, more, hfewer, hmore, ?_⟩
  intro name hname
  obtain ⟨hw, key, hkey, hoffers⟩ := (hmem name).mp hname
  exact (hmem' name).mpr ⟨hw, key, hkey, index.offersIn_append path outer key hoffers⟩

end Index

/-- Joins around a path never take anything away. The tree inside a path is contained in the tree inside
every longer one, so what is reachable stays reachable, as does everything at the root and every key that the
root knows. A token's path is the full one or ends with a key that the root knows; whatever is discovered in
it is also discovered in the full one. -/
theorem outer_joins_only_add (index : Index) :
    (∀ path outer keys, (index.treeAt path).hasPath keys = true →
      (index.treeAt (path ++ outer)).hasPath keys = true) ∧
    (∀ path outer, index.reachable path ⊆ index.reachable (path ++ outer)) ∧
    (∀ path, index.reachable [] ⊆ index.reachable path) ∧
    (∀ key path, index.knowsAtRoot key = true → key ∈ index.reachable path) ∧
    (∀ token path, Context.ofToken? index token = some (.attributes path) →
      ∃ full, Context.ofToken? .rootless token = some (.attributes full) ∧
        (path = full ∨ ∃ before key rest,
          path = before ++ [key] ∧ index.knowsAtRoot key = true ∧ full = path ++ rest) ∧
        ∀ id earlier, ∃ fewer more,
          discover (.held id ⟨index, none⟩) earlier (some (.attributes path)) none = .ok fewer ∧
          discover (.held id ⟨index, none⟩) earlier (some (.attributes full)) none = .ok more ∧
          fewer.found ⊆ more.found) := by
  refine ⟨index.treeAt_le_append, index.reachable_subset_append, ?_, ?_, ?_⟩
  · intro path
    exact index.reachable_subset_append [] path
  · intro key path hk
    rw [Index.reachable, Tree.mem_keys]
    exact index.hasKey_of_knowsAtRoot path key hk
  · intro token path hc
    obtain ⟨full, hfull, hstops⟩ :=
      Context.ofFrames?_stopsShort index (some token.text) token.frames path hc
    refine ⟨full, hfull, hstops, ?_⟩
    intro id earlier
    exact index.discover_subset_of_stopsShort id earlier path full hstops

/-- The path of a user's friends ends with them, since the root knows friends. All that is discovered there is
discovered inside the users too. -/
theorem outer_joins_only_add_friends :
    (friendsIndex true).knowsAtRoot "user/friends" = true ∧
    Text.of "user/friends" ∈ (friendsIndex true).reachable ["app/users"] ∧
    Context.ofToken? (friendsIndex true) friendToken = some (.attributes ["user/friends"]) ∧
    Context.ofToken? .rootless friendToken = some (.attributes ["user/friends", "app/users"]) ∧
    ∃ fewer more,
      discover (.held 0 ⟨friendsIndex true, none⟩) [] (some (.attributes ["user/friends"])) none =
        .ok fewer ∧
      discover (.held 0 ⟨friendsIndex true, none⟩) []
        (some (.attributes ["user/friends", "app/users"])) none = .ok more ∧
      fewer.found ⊆ more.found := by
  obtain ⟨-, -, -, hknown, hpath⟩ := outer_joins_only_add (friendsIndex true)
  have hroot : (friendsIndex true).knowsAtRoot "user/friends" = true := by decide +kernel
  have hc : Context.ofToken? (friendsIndex true) friendToken = some (.attributes ["user/friends"]) := by
    decide +kernel
  have hwhole : Context.ofToken? .rootless friendToken =
      some (.attributes ["user/friends", "app/users"]) := by decide +kernel
  obtain ⟨full, hfull, -, hfound⟩ := hpath friendToken _ hc
  rw [hwhole] at hfull
  cases hfull
  exact ⟨hroot, hknown _ _ hroot, hc, hwhole, hfound 0 []⟩

end QueryHints
