import Mathlib.Data.List.Induction
import QueryHints.Proofs.FramePositions

namespace QueryHints

structure ParametrisedJoin where
  join : Frame
  param : Frame
  list : Frame
  isJoin : join.mode = some .join
  isParam : param.mode = some .paramExp
  isList : list.mode = some .attrList

namespace ParametrisedJoin

variable (j : ParametrisedJoin)

def bare (inner outer : List Frame) : List Frame :=
  inner ++ j.join :: j.list :: outer

def full (inner outer : List Frame) : List Frame :=
  inner ++ j.join :: j.param :: j.list :: outer

/-- The second path is the first, or what the first begins with up to the key of the join, where that key is
unknown at the root and something would follow. -/
def KeepsOrCuts (index : Index) (whole cut : List Text) : Prop :=
  cut = whole ∨ ∃ key path rest, Context.unknownKey? index j.join = some key ∧ rest ≠ [] ∧
    whole = path ++ key :: rest ∧ cut = path ++ [key]

theorem keepsOrCuts_cons (index : Index) (whole cut : List Text) (first : Text)
    (h : j.KeepsOrCuts index whole cut) : j.KeepsOrCuts index (first :: whole) (first :: cut) := by
  rcases h with rfl | ⟨key, path, rest, hkey, hrest, rfl, rfl⟩
  · exact Or.inl rfl
  · exact Or.inr ⟨key, first :: path, rest, hkey, hrest, rfl, rfl⟩

section Climbing

variable (index : Index) (inner outer : List Frame)

theorem climb_list : Context.climb index (j.list :: outer) = [] := by
  apply Context.climb_of_not_join
  simp [j.isList]

theorem climb_param : Context.climb index (j.param :: outer) = [] := by
  apply Context.climb_of_not_join
  simp [j.isParam]

/-- One step of a climb: what holds behind the next two frames holds from the first of them on. -/
theorem climb_cons_full (frame : Frame) (before after : List Frame)
    (h : j.KeepsOrCuts index (Context.climb index (before.drop 1)) (Context.climb index (after.drop 1))) :
    j.KeepsOrCuts index (Context.climb index (frame :: before)) (Context.climb index (frame :: after)) := by
  cases hk : Context.unknownKey? index frame with
  | none =>
    rw [Context.climb_of_not_unknown index frame before hk, Context.climb_of_not_unknown index frame after hk]
    exact Or.inl rfl
  | some key =>
    rw [Context.climb_of_unknown index frame before key hk, Context.climb_of_unknown index frame after key hk]
    exact j.keepsOrCuts_cons index _ _ key h

/-- At the join itself, the frame that a climb goes on from is its attribute list. There it ends. -/
theorem climb_at_join :
    j.KeepsOrCuts index (Context.climb index (j.bare [] outer)) (Context.climb index (j.full [] outer)) := by
  simp only [bare, full, List.nil_append]
  cases hk : Context.unknownKey? index j.join with
  | none =>
    rw [Context.climb_of_not_unknown index j.join _ hk, Context.climb_of_not_unknown index j.join _ hk]
    exact Or.inl rfl
  | some key =>
    rw [Context.climb_of_unknown index j.join _ key hk, Context.climb_of_unknown index j.join _ key hk]
    simp only [List.drop_succ_cons, List.drop_zero, j.climb_list]
    cases hrest : Context.climb index outer with
    | nil => exact Or.inl rfl
    | cons next rest => exact Or.inr ⟨key, [], next :: rest, hk, List.cons_ne_nil next rest, rfl, rfl⟩

/-- Parameters change nothing about a climb, or end it with the key of their join. -/
theorem climb_full :
    j.KeepsOrCuts index (Context.climb index (j.bare inner outer))
      (Context.climb index (j.full inner outer)) := by
  induction inner using List.twoStepInduction with
  | nil => exact j.climb_at_join index outer
  | singleton frame =>
    apply j.climb_cons_full index frame (j.bare [] outer) (j.full [] outer)
    simp only [bare, full, List.nil_append, List.drop_succ_cons, List.drop_zero]
    rw [j.climb_list, j.climb_param]
    exact Or.inl rfl
  | cons_cons frame between inner ih _ =>
    exact j.climb_cons_full index frame (between :: j.bare inner outer) (between :: j.full inner outer) ih

theorem climb_drop_full (count : Nat) (hc : count ≤ inner.length + 1) :
    j.KeepsOrCuts index (Context.climb index ((j.bare inner outer).drop count))
      (Context.climb index ((j.full inner outer).drop count)) := by
  rcases Nat.lt_or_ge inner.length count with hlt | hle
  · have hcount : count = inner.length + 1 := by omega
    have hbare : (j.bare inner outer).drop count = j.list :: outer := by
      simp [bare, hcount, List.drop_append]
    have hfull : (j.full inner outer).drop count = j.param :: j.list :: outer := by
      simp [full, hcount, List.drop_append]
    rw [hbare, hfull, j.climb_list, j.climb_param]
    exact Or.inl rfl
  · have hbare : (j.bare inner outer).drop count = j.bare (inner.drop count) outer :=
      List.drop_append_of_le_length hle
    have hfull : (j.full inner outer).drop count = j.full (inner.drop count) outer :=
      List.drop_append_of_le_length hle
    rw [hbare, hfull]
    exact j.climb_full index (inner.drop count) outer

end Climbing

section Settling

variable (index : Index) (inner outer : List Frame)

def Settles (before after : Option Context) : Prop :=
  after = before ∨ ∃ key path rest, Context.unknownKey? index j.join = some key ∧ rest ≠ [] ∧
    before = some (.attributes (path ++ key :: rest)) ∧ after = some (.attributes (path ++ [key]))

theorem settles_of_keepsOrCuts (whole cut : List Text) (h : j.KeepsOrCuts index whole cut) :
    j.Settles index (some (.attributes whole)) (some (.attributes cut)) := by
  rcases h with rfl | ⟨key, path, rest, hkey, hrest, rfl, rfl⟩
  · exact Or.inl rfl
  · exact Or.inr ⟨key, path, rest, hkey, hrest, rfl, rfl⟩

theorem modeOf_full : Context.modeOf (j.full inner outer) = Context.modeOf (j.bare inner outer) := by
  cases inner <;> rfl

/-- On the key of the join, the frame that settles the context is the join itself, and there parameters are
skipped. -/
theorem ofFrames?_on_key (text : Option Text) (hin : ∀ frame ∈ inner, frame.mode = some .paramExp) :
    Context.ofFrames? index text (j.full inner outer) =
      Context.ofFrames? index text (j.bare inner outer) := by
  induction inner generalizing text with
  | nil =>
    have hlist : Context.modeOf (j.list :: outer) ≠ some .paramExp := by
      simp [Context.modeOf, j.isList]
    have hparam : Context.modeOf (j.param :: j.list :: outer) = some .paramExp := by
      simp [Context.modeOf, j.isParam]
    simp only [bare, full, List.nil_append, Context.ofFrames?, j.isJoin, hparam, if_neg hlist]
    rfl
  | cons frame inner ih =>
    have hframe := hin frame List.mem_cons_self
    have hrest := ih none fun other h => hin other (List.mem_cons_of_mem frame h)
    simpa only [bare, full, List.cons_append, Context.ofFrames?, hframe] using hrest

/-- So the context at these frames is the same, or its path ends with the key of the join. -/
theorem ofFrames?_full (text : Option Text) :
    j.Settles index (Context.ofFrames? index text (j.bare inner outer))
      (Context.ofFrames? index text (j.full inner outer)) := by
  induction inner generalizing text with
  | nil => exact Or.inl (j.ofFrames?_on_key index [] outer text fun _ h => absurd h List.not_mem_nil)
  | cons frame inner ih =>
    have hbare : j.bare (frame :: inner) outer = frame :: j.bare inner outer := rfl
    have hfull : j.full (frame :: inner) outer = frame :: j.full inner outer := rfl
    have hskip : (if Context.modeOf (j.bare inner outer) = some .paramExp then 2 else 1) ≤
        inner.length + 1 := by
      cases inner with
      | nil => simp [bare, Context.modeOf, j.isJoin]
      | cons first rest =>
        simp only [List.length_cons]
        split_ifs <;> omega
    rw [hbare, hfull, Context.ofFrames?, Context.ofFrames?, j.modeOf_full]
    rcases hmode : frame.mode with _ | mode
    · exact Or.inl rfl
    · cases mode with
      | ident => exact Or.inl rfl
      | join =>
        by_cases hopens : Context.opens text frame.key = true
        · simp only [if_pos hopens]
          exact j.settles_of_keepsOrCuts index _ _ (j.climb_drop_full index inner outer _ hskip)
        · simp only [if_neg hopens]
          exact Or.inl rfl
      | attrList =>
        dsimp only
        split_ifs with hnone
        · exact Or.inl rfl
        · exact j.settles_of_keepsOrCuts index _ _ (j.climb_full index inner outer)
      | paramExp => exact ih none
      | other => exact Or.inl rfl

end Settling

/-- Parameters of a join, wherever it stands among the frames of a token. On the join's key they make no
difference. Elsewhere they make none either, or the path ends with the join's key where without them it
would lead on; that happens only at a key that the root does not know. -/
theorem parameters_keep_or_cut (index : Index) (token : Token) (inner outer : List Frame) :
    let before := Context.ofToken? index { token with frames := j.bare inner outer }
    let after := Context.ofToken? index { token with frames := j.full inner outer }
    ((∀ frame ∈ inner, frame.mode = some .paramExp) → after = before) ∧
    (after = before ∨ ∃ key path rest, Context.unknownKey? index j.join = some key ∧ rest ≠ [] ∧
      before = some (.attributes (path ++ key :: rest)) ∧
      after = some (.attributes (path ++ [key]))) :=
  ⟨j.ofFrames?_on_key index inner outer (some token.text),
    j.ofFrames?_full index inner outer (some token.text)⟩

def limitedFriends : ParametrisedJoin where
  join := .mk (some .join) (.text ":user/friends") 14
  param := .mk (some .paramExp) .absent 15
  list := .mk (some .attrList) .absent 13
  isJoin := rfl
  isParam := rfl
  isList := rfl

def usersIndex : Index where
  rules := .table [⟨[], .node "app/users" (.node "user/friends" (.ofKeys ["user/name"]) .empty) .empty,
    by decide⟩]
  idents := []
  ignored := []

def usersAround : List Frame :=
  [.mk (some .join) (.text ":app/users") 1, .mk (some .attrList) .absent 0]

/-- On the key of the friends the path leads to the users, with a limit and without one. -/
theorem parameters_keep_or_cut_on_key :
    Context.ofToken? usersIndex ⟨":user/friends", 15, 28, .atom, limitedFriends.full [] usersAround⟩ =
      Context.ofToken? usersIndex ⟨":user/friends", 15, 28, .atom, limitedFriends.bare [] usersAround⟩ :=
  (limitedFriends.parameters_keep_or_cut usersIndex ⟨":user/friends", 15, 28, .atom, []⟩ [] usersAround).1
    fun _ h => absurd h List.not_mem_nil

/-- Among the attributes of the friends it does so only without a limit. -/
theorem parameters_cut_path :
    Context.ofToken? usersIndex ⟨":us", 30, 33, .atom,
      limitedFriends.bare [.mk (some .attrList) .absent 29] usersAround⟩ =
        some (.attributes ["user/friends", "app/users"]) ∧
    Context.ofToken? usersIndex ⟨":us", 30, 33, .atom,
      limitedFriends.full [.mk (some .attrList) .absent 29] usersAround⟩ =
        some (.attributes ["user/friends"]) := by
  decide +kernel

end ParametrisedJoin

end QueryHints
