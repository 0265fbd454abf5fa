import Mathlib.Tactic.SplitIfs
import QueryHints.Context

namespace QueryHints

namespace FrameKey

def isAbsent : FrameKey → Bool
  | absent => true
  | _ => false

def text? : FrameKey → Option Text
  | text s => some s
  | _ => none

def identText? : FrameKey → Option Text
  | frame inner _ => if inner.mode = some .ident then inner.key.text? else none
  | _ => none

end FrameKey

namespace Context

def unknownKey? (index : Index) (frame : Frame) : Option Text :=
  if frame.mode = some .join then
    (frame.key.text?.map Key.ofText).filter fun key => !index.knowsAtRoot key
  else none

/-- The key of a join that a path ends with: a text that the root knows, or an ident's. -/
def anchorKey? (index : Index) (frame : Frame) : Option Text :=
  if frame.mode = some .join then
    (frame.key.text?.map Key.ofText).filter index.knowsAtRoot <|> frame.key.identText?.map Key.ofText
  else none

def everySecond (frames : List Frame) (start : Nat) : List Frame :=
  (List.range frames.length).filterMap fun i => frames[start + 2 * i]?

/-- The joins that are passed on the way out from a position, the longest run of unknown ones. -/
def passed (index : Index) (frames : List Frame) (start : Nat) : List Frame :=
  (everySecond frames start).takeWhile fun frame => (unknownKey? index frame).isSome

def walk (index : Index) (frames : List Frame) (start : Nat) : List Text :=
  (passed index frames start).filterMap (unknownKey? index) ++
    ((everySecond frames start)[(passed index frames start).length]?.bind (anchorKey? index)).toList

def leading (frames : List Frame) : Nat :=
  (frames.takeWhile fun frame => frame.mode = some .paramExp).length

section Climbing

variable (index : Index) (frame : Frame) (outer : List Frame)

/-- An unknown join gives its key, and the climb goes on behind the frame around it. -/
theorem climb_of_unknown (key : Text) (hk : unknownKey? index frame = some key) :
    climb index (frame :: outer) = key :: climb index (outer.drop 1) := by
  unfold unknownKey? at hk
  split at hk
  case isFalse => cases hk
  case isTrue hj =>
    cases ht : frame.key with
    | text s =>
      simp only [ht, FrameKey.text?, Option.map_some, Option.filter_eq_some_iff, Option.some.injEq,
        Bool.not_eq_true'] at hk
      obtain ⟨rfl, hunknown⟩ := hk
      simp only [climb, hj, ht, hunknown]
      cases outer <;> simp [climb]
    | absent => simp [ht, FrameKey.text?] at hk
    | value v => simp [ht, FrameKey.text?] at hk
    | frame inner around => simp [ht, FrameKey.text?] at hk

/-- A frame that is not passed ends the path. -/
theorem climb_of_not_unknown (hk : unknownKey? index frame = none) :
    climb index (frame :: outer) = (anchorKey? index frame).toList := by
  by_cases hj : frame.mode = some .join
  · simp only [unknownKey?, hj, if_true] at hk
    simp only [climb, anchorKey?, hj, if_true]
    cases ht : frame.key with
    | text s =>
      have hknown : index.knowsAtRoot (Key.ofText s) = true := by
        simpa [ht, FrameKey.text?] using hk
      simp [FrameKey.text?, Option.filter, hknown]
    | absent => simp [FrameKey.text?, FrameKey.identText?]
    | value v => simp [FrameKey.text?, FrameKey.identText?]
    | frame inner around =>
      by_cases hi : inner.mode = some .ident
      · cases hs : inner.key <;> simp [FrameKey.text?, FrameKey.identText?, hi, hs]
      · simp [FrameKey.text?, FrameKey.identText?, hi]
  · simp [climb, anchorKey?, hj]

theorem climb_of_not_join (hj : frame.mode ≠ some .join) : climb index (frame :: outer) = [] := by
  rw [climb, if_neg hj]

/-- A join with a text as its key ends the path only if the root knows the text. -/
theorem climb_of_join (hj : frame.mode = some .join) (text : Text) (hk : frame.key = .text text)
    (list : Frame) :
    climb index (frame :: list :: outer) =
      if index.knowsAtRoot (Key.ofText text) then [Key.ofText text]
      else Key.ofText text :: climb index outer := by
  simp [climb, hj, hk]

theorem ofFrames?_of_attrList (text : Option Text) (hl : frame.mode = some .attrList) :
    ofFrames? index text (frame :: outer) = some (.attributes (climb index outer)) := by
  simp only [ofFrames?, hl]
  split_ifs with hnone
  · -- a frame without a mode is no join, so the climb would end there as well
    cases outer with
    | nil => rw [climb]
    | cons around further =>
      have hmode : around.mode = none := hnone
      rw [climb_of_not_join index around further (by simp [hmode])]
  · rfl

end Climbing

section Walking

variable (index : Index) (frames : List Frame) (start : Nat)

theorem drop_of_none (h : frames[start]? = none) : frames.drop start = [] := by
  rw [List.drop_eq_nil_iff]
  exact List.getElem?_eq_none_iff.mp h

theorem drop_of_some (frame : Frame) (h : frames[start]? = some frame) :
    frames.drop start = frame :: frames.drop (start + 1) := by
  obtain ⟨hlt, hget⟩ := List.getElem?_eq_some_iff.mp h
  rw [List.drop_eq_getElem_cons hlt, hget]

theorem everySecond_of_none (h : frames[start]? = none) : everySecond frames start = [] := by
  rw [everySecond, List.filterMap_eq_nil_iff]
  intro i _
  rw [List.getElem?_eq_none_iff] at h ⊢
  omega

theorem everySecond_of_some (frame : Frame) (h : frames[start]? = some frame) :
    everySecond frames start = frame :: everySecond frames (start + 2) := by
  obtain ⟨hlt, -⟩ := List.getElem?_eq_some_iff.mp h
  obtain ⟨n, hn⟩ := Nat.exists_eq_succ_of_ne_zero (Nat.ne_zero_of_lt hlt)
  have hlast : frames[start + 2 + 2 * n]? = none := by
    rw [List.getElem?_eq_none_iff]
    omega
  have hshift : (fun i => frames[start + 2 * (i + 1)]?) = fun i => frames[start + 2 + 2 * i]? := by
    funext i
    congr 1
    omega
  have hrest : everySecond frames (start + 2) =
      (List.range n).filterMap fun i => frames[start + 2 + 2 * i]? := by
    rw [everySecond, hn, List.range_succ, List.filterMap_append]
    simp [hlast]
  rw [hrest, everySecond, hn, List.range_succ_eq_map, List.filterMap_cons, List.filterMap_map]
  simp only [Nat.mul_zero, Nat.add_zero, h]
  rw [← hshift]
  rfl

theorem walk_of_none (h : frames[start]? = none) : walk index frames start = [] := by
  simp [walk, passed, everySecond_of_none frames start h]

theorem walk_of_unknown (frame : Frame) (h : frames[start]? = some frame) (key : Text)
    (hk : unknownKey? index frame = some key) :
    walk index frames start = key :: walk index frames (start + 2) := by
  have hpassed : passed index frames start = frame :: passed index frames (start + 2) := by
    simp [passed, everySecond_of_some frames start frame h, hk]
  simp [walk, hpassed, everySecond_of_some frames start frame h, hk]

theorem walk_of_not_unknown (frame : Frame) (h : frames[start]? = some frame)
    (hk : unknownKey? index frame = none) :
    walk index frames start = (anchorKey? index frame).toList := by
  have hpassed : passed index frames start = [] := by
    simp [passed, everySecond_of_some frames start frame h, hk]
  simp [walk, hpassed, everySecond_of_some frames start frame h]

/-- A climb from a position takes the frames at every second position from there on. -/
theorem climb_drop : climb index (frames.drop start) = walk index frames start := by
  -- the induction is on the frames that are left, of which a passed join takes two
  induction hleft : frames.length - start using Nat.strongRecOn generalizing start with
  | _ left ih =>
    cases hf : frames[start]? with
    | none => rw [drop_of_none frames start hf, walk_of_none index frames start hf, climb]
    | some frame =>
      have hlt := (List.getElem?_eq_some_iff.mp hf).1
      rw [drop_of_some frames start frame hf]
      cases hk : unknownKey? index frame with
      | none =>
        rw [climb_of_not_unknown index frame _ hk, walk_of_not_unknown index frames start frame hf hk]
      | some key =>
        have hnext := ih (frames.length - (start + 2)) (by omega) (start + 2) rfl
        rw [climb_of_unknown index frame _ key hk, walk_of_unknown index frames start frame hf key hk,
          List.drop_drop, ← hnext]

end Walking

section Settling

theorem leading_of_param (frame : Frame) (outer : List Frame) (hp : frame.mode = some .paramExp) :
    leading (frame :: outer) = leading outer + 1 := by
  simp [leading, hp]

theorem leading_of_not_param (frame : Frame) (outer : List Frame) (hp : frame.mode ≠ some .paramExp) :
    leading (frame :: outer) = 0 := by
  simp [leading, hp]

theorem not_param_at_leading (frames : List Frame) (frame : Frame)
    (h : frames[leading frames]? = some frame) : frame.mode ≠ some .paramExp := by
  induction frames with
  | nil => simp at h
  | cons first outer ih =>
    by_cases hp : first.mode = some .paramExp
    · rw [leading_of_param first outer hp, List.getElem?_cons_succ] at h
      exact ih h
    · rw [leading_of_not_param first outer hp, List.getElem?_cons_zero] at h
      cases h
      exact hp

/-- The frames behind the leading parameter expressions settle the context. If there are any such
expressions, the text no longer counts. -/
theorem ofFrames?_leading (index : Index) (text : Option Text) (frames : List Frame) :
    ofFrames? index text frames =
      ofFrames? index (if leading frames = 0 then text else none) (frames.drop (leading frames)) := by
  induction frames generalizing text with
  | nil => rfl
  | cons frame outer ih =>
    by_cases hp : frame.mode = some .paramExp
    · have hdrop : (frame :: outer).drop (leading outer + 1) = outer.drop (leading outer) := rfl
      rw [leading_of_param frame outer hp, hdrop, if_neg (Nat.succ_ne_zero _), ofFrames?, hp]
      simpa using ih none
    · rw [leading_of_not_param frame outer hp, if_pos rfl, List.drop_zero]

/-- The text of a token counts only where no parameter expression has been passed. -/
theorem opens_behind (text : Text) (count : Nat) (key : FrameKey) :
    opens (if count = 0 then some text else none) key = true ↔
      key.isAbsent = true ∨ count = 0 ∧ key.text? = some text := by
  cases key with
  | text s =>
    have hsym : text = s ↔ s = text := eq_comm
    by_cases hc : count = 0 <;> simp [opens, FrameKey.isAbsent, FrameKey.text?, hc, hsym]
  | absent => simp [opens, FrameKey.isAbsent]
  | value v => simp [opens, FrameKey.isAbsent, FrameKey.text?]
  | frame inner outer => simp [opens, FrameKey.isAbsent, FrameKey.text?]

theorem modeOf_drop (frames : List Frame) (i : Nat) :
    modeOf (frames.drop i) = frames[i]?.bind Frame.mode := by
  rw [modeOf, List.head?_drop]

end Settling

/-- The context of a token in closed form, by the positions of its frames. Let `m` be the number of leading
parameter expressions. Without a frame at `m` the cursor is at the root. An ident or a join there counts if
nothing opened it, or the token did and `m` is zero; the path of a join is that from two frames further on,
or from three where a parameter expression lies between. The path of an attribute list is that from the
next frame on, if that frame has a mode. There is no other context. -/
theorem settled_by_positions (index : Index) (token : Token) :
    ofToken? index token =
      let frames := token.frames
      let m := leading frames
      let modeAt (i : Nat) : Option Mode := frames[i]?.bind Frame.mode
      let path (start : Nat) : Option Context := some (.attributes (walk index frames start))
      match frames[m]? with
      | none => some (.attributes [])
      | some frame =>
        let counts : Prop := frame.key.isAbsent = true ∨ m = 0 ∧ frame.key.text? = some token.text
        match frame.mode with
        | some .ident => if counts then some .ident else none
        | some .join =>
          if counts then path (if modeAt (m + 1) = some .paramExp then m + 3 else m + 2) else none
        | some .attrList => if modeAt (m + 1) = none then some (.attributes []) else path (m + 1)
        | _ => none := by
  dsimp only
  rw [ofToken?, ofFrames?_leading]
  generalize hm : leading token.frames = m
  cases hf : token.frames[m]? with
  | none => rw [drop_of_none token.frames m hf, ofFrames?]
  | some frame =>
    have hnot := not_param_at_leading token.frames frame (hm ▸ hf)
    rw [drop_of_some token.frames m frame hf, ofFrames?]
    simp only [opens_behind, modeOf_drop, List.drop_drop, climb_drop]
    cases hmode : frame.mode with
    | none => rfl
    | some mode =>
      cases mode with
      | ident => rfl
      | join =>
        dsimp only
        split_ifs <;> rfl
      | attrList => rfl
      | paramExp => exact absurd hmode hnot
      | other => rfl

end Context

end QueryHints
