import QueryHints.Proofs.ExpandedKeys

namespace QueryHints

section Dropping

variable (path other : List Text) (hplain : plainPath path = plainPath other)

include hplain

/-- Paths that differ in placeholders only lead to the same candidates. -/
theorem Source.explore_of_plainPath (source : Source) (earlier : List Path) :
    source.explore earlier (.attributes path) = source.explore earlier (.attributes other) := by
  unfold plainPath at hplain
  simp only [explore, hplain]

/-- Paths that differ in placeholders only lead to the same candidates. -/
theorem discover_of_plainPath (subject : Subject) (earlier : List Path) :
    discover subject earlier (some (.attributes path)) none =
      discover subject earlier (some (.attributes other)) none := by
  have hexplore (source : Source) := source.explore_of_plainPath path other hplain earlier
  simp only [discover, Source.discover, hexplore]

end Dropping

structure PlaceholderJoin where
  list : Frame
  join : Frame
  text : Text
  isList : list.mode = some .attrList
  isJoin : join.mode = some .join
  isKeyed : join.key = .text text
  isPlaceholder : Key.isPlaceholder (Key.ofText text) = true

namespace PlaceholderJoin

def key (j : PlaceholderJoin) : Text :=
  Key.ofText j.text

def inside (joins : List PlaceholderJoin) (frames : List Frame) : List Frame :=
  joins.foldr (fun j outer => j.list :: j.join :: outer) frames

section Climbing

variable (index : Index) (joins : List PlaceholderJoin) (list : Frame) (outer : List Frame)
variable (hl : list.mode = some .attrList)

include hl

/-- The innermost frame is an attribute list, that of the innermost join or the one around all of them. -/
theorem inside_eq_cons :
    ∃ first, first.mode = some .attrList ∧
      inside joins (list :: outer) = first :: (inside joins (list :: outer)).drop 1 := by
  cases joins with
  | nil => exact ⟨list, hl, rfl⟩
  | cons j rest => exact ⟨j.list, j.isList, rfl⟩

/-- A placeholder join ends the climb if the root knows its key, and otherwise is one more join to pass. -/
theorem climb_inside_cons (j : PlaceholderJoin) :
    Context.climb index ((inside (j :: joins) (list :: outer)).drop 1) =
      if index.knowsAtRoot j.key then [j.key]
      else j.key :: Context.climb index ((inside joins (list :: outer)).drop 1) := by
  obtain ⟨first, -, hcons⟩ := inside_eq_cons joins list outer hl
  have hinside : (inside (j :: joins) (list :: outer)).drop 1 = j.join :: inside joins (list :: outer) := rfl
  rw [hinside, hcons, Context.climb_of_join index j.join _ j.isJoin j.text j.isKeyed first]
  rfl

/-- All placeholders of the joins are dropped. If the root knows one of them, nothing else is left. -/
theorem plainPath_climb_inside :
    plainPath (Context.climb index ((inside joins (list :: outer)).drop 1)) =
      if ∃ j ∈ joins, index.knowsAtRoot j.key = true then [] else plainPath (Context.climb index outer) := by
  induction joins with
  | nil => simp [inside]
  | cons j rest ih =>
    have hdropped (path : List Text) : plainPath (j.key :: path) = plainPath path := by
      have hplaceholder : Key.isPlaceholder j.key = true := j.isPlaceholder
      simp [plainPath, hplaceholder]
    rw [climb_inside_cons index rest list outer hl j]
    by_cases hknown : index.knowsAtRoot j.key = true
    · have hsome : ∃ other ∈ j :: rest, index.knowsAtRoot other.key = true :=
        ⟨j, List.mem_cons_self, hknown⟩
      rw [if_pos hknown, if_pos hsome, hdropped]
      rfl
    · rw [if_neg hknown, hdropped, ih]
      simp [hknown]

theorem ofFrames?_inside (text : Option Text) :
    Context.ofFrames? index text (inside joins (list :: outer)) =
      some (.attributes (Context.climb index ((inside joins (list :: outer)).drop 1))) := by
  obtain ⟨first, hfirst, hcons⟩ := inside_eq_cons joins list outer hl
  rw [hcons, Context.ofFrames?_of_attrList index first _ text hfirst]
  rfl

end Climbing

/-- Nested placeholder joins around a query's body. If the root knows none of the placeholders, the joins
change nothing: inside them is offered what is offered in the body. If it knows one of them, what is offered
is what the root offers, whatever the body stands in. -/
theorem offers_body_or_root (id : Nat) (source : Source) (earlier : List Path)
    (joins : List PlaceholderJoin) (list : Frame) (outer : List Frame) (hl : list.mode = some .attrList)
    (body token : Token) (hb : body.frames = list :: outer) (ht : token.frames = inside joins body.frames) :
    ((∀ j ∈ joins, source.index.knowsAtRoot j.key = false) →
      discover (.held id source) earlier (Context.ofToken? source.index token) none =
        discover (.held id source) earlier (Context.ofToken? source.index body) none) ∧
    ((∃ j ∈ joins, source.index.knowsAtRoot j.key = true) →
      discover (.held id source) earlier (Context.ofToken? source.index token) none =
        discover (.held id source) earlier (some (.attributes [])) none) := by
  have hpath := plainPath_climb_inside source.index joins list outer hl
  have htoken := ofFrames?_inside source.index joins list outer hl (some token.text)
  have hbody := Context.ofFrames?_of_attrList source.index list outer (some body.text) hl
  rw [Context.ofToken?, Context.ofToken?, ht, hb, htoken, hbody]
  constructor
  · intro hunknown
    apply discover_of_plainPath
    rw [hpath, if_neg]
    rintro ⟨j, hj, hknown⟩
    rw [hunknown j hj] at hknown
    cases hknown
  · intro hknown
    apply discover_of_plainPath
    rw [hpath, if_pos hknown]
    rfl

def groupJoin : PlaceholderJoin where
  list := .mk (some .attrList) .absent 24
  join := .mk (some .join) (.text ":>/group") 14
  text := ":>/group"
  isList := rfl
  isJoin := rfl
  isKeyed := rfl
  isPlaceholder := by decide

def groupIndex (listed : Bool) : Index where
  rules := .table [⟨[], .node "app/users" (.ofKeys ["user/id"])
    (if listed then .node ">/group" .empty .empty else .empty), by cases listed <;> decide⟩]
  idents := []
  ignored := []

def usersBody : Token :=
  ⟨[], 13, 13, .other, [.mk (some .attrList) .absent 12, .mk (some .join) (.text ":app/users") 1,
    .mk (some .attrList) .absent 0]⟩

def inGroups (groups : List PlaceholderJoin) : Token :=
  { usersBody with frames := inside groups usersBody.frames }

/-- A group in a group changes nothing where the root does not list it, and leads to the root where it does. -/
theorem offers_body_or_root_group :
    (∀ j ∈ [groupJoin, groupJoin], (groupIndex false).knowsAtRoot j.key = false) ∧
    discover (.held 0 ⟨groupIndex false, none⟩) []
        (Context.ofToken? (groupIndex false) (inGroups [groupJoin, groupJoin])) none =
      discover (.held 0 ⟨groupIndex false, none⟩) [] (Context.ofToken? (groupIndex false) usersBody) none ∧
    (∃ j ∈ [groupJoin, groupJoin], (groupIndex true).knowsAtRoot j.key = true) ∧
    discover (.held 0 ⟨groupIndex true, none⟩) []
        (Context.ofToken? (groupIndex true) (inGroups [groupJoin, groupJoin])) none =
      discover (.held 0 ⟨groupIndex true, none⟩) [] (some (.attributes [])) none := by
  have hunlisted : ∀ j ∈ [groupJoin, groupJoin], (groupIndex false).knowsAtRoot j.key = false := by
    decide +kernel
  have hlisted : ∃ j ∈ [groupJoin, groupJoin], (groupIndex true).knowsAtRoot j.key = true := by
    decide +kernel
  have h (listed : Bool) := offers_body_or_root 0 ⟨groupIndex listed, none⟩ [] [groupJoin, groupJoin] _ _ rfl
    usersBody (inGroups [groupJoin, groupJoin]) rfl rfl
  exact ⟨hunlisted, (h false).1 hunlisted, hlisted, (h true).2 hlisted⟩

/-- Where the root lists the group, the ids of users are offered in the body and not in a group of it. -/
theorem listed_placeholder_hides_body :
    ∃ inBody inGroup,
      discover (.held 0 ⟨groupIndex true, none⟩) [] (Context.ofToken? (groupIndex true) usersBody) none =
        .ok inBody ∧
      discover (.held 0 ⟨groupIndex true, none⟩) []
        (Context.ofToken? (groupIndex true) (inGroups [groupJoin])) none = .ok inGroup ∧
      .text "user/id" ∈ inBody.found ∧ .text "user/id" ∉ inGroup.found := by
  have hbody : Context.ofToken? (groupIndex true) usersBody = some (.attributes ["app/users"]) := by
    decide +kernel
  have hgroup : Context.ofToken? (groupIndex true) (inGroups [groupJoin]) =
      some (.attributes [">/group"]) := by
    decide +kernel
  rw [hbody, hgroup]
  exact ⟨_, _, rfl, rfl, by decide +kernel, by decide +kernel⟩

end PlaceholderJoin

end QueryHints
