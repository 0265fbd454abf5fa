import QueryHints.Proofs.EditedText

namespace QueryHints.Editor

open Letter (lineFeed)

def InList (token : Token) (indent : Int) : Prop :=
  token.kind = .composite ∧ ∃ key outer, token.frames = .mk (some .attrList) key indent :: outer

/-- Only a composite attribute in an attribute list becomes a join. -/
theorem joinIndent?_eq_some_iff (token : Token) (indent : Int) :
    joinIndent? token = some indent ↔ InList token indent := by
  obtain ⟨text, start, stop, kind, frames⟩ := token
  cases frames with
  | nil => simp [joinIndent?, InList]
  | cons frame outer =>
    obtain ⟨mode, key, column⟩ := frame
    by_cases hmode : mode = some .attrList <;> by_cases hkind : kind = .composite <;>
      simp [joinIndent?, InList, Frame.mode, Frame.indent, hmode, hkind]

def gap (token : Token) (indent : Int) : Text :=
  if token.start = indent then lineFeed :: List.replicate (indent.toNat + 1) (Letter.ofChar ' ')
  else [Letter.ofChar ' ']

def bracketed (key gap : Text) : Text :=
  Text.of "\x7b" ++ key ++ gap ++ Text.of "[]\x7d"

namespace Screen

/-- The cursor stands in a line, with one letter right before it and another right after it. -/
def CursorBetween (screen : Screen) (a b : Letter) : Prop :=
  ∃ above left right below, screen.lines = above ++ (left ++ a :: b :: right) :: below ∧
    screen.cursor = ⟨above.length, left.length + 1⟩

/-- The second screen shows the join of the token on the first one. All around the token is as it was, and the
cursor is between the new brackets. -/
structure Opens (screen after : Screen) (token : Token) (gap : Text) : Prop where
  old : screen.text = screen.before ⟨screen.cursor.line, token.start⟩ ++ token.text ++
    screen.behind ⟨screen.cursor.line, token.stop⟩
  new : after.text = screen.before ⟨screen.cursor.line, token.start⟩ ++ bracketed token.text gap ++
    screen.behind ⟨screen.cursor.line, token.stop⟩
  cursor : after.CursorBetween '[' ']'
  inside : after.before after.cursor = screen.before ⟨screen.cursor.line, token.start⟩ ++
    (Text.of "\x7b" ++ token.text ++ gap ++ Text.of "[")

section Opening

variable (screen : Screen) (above below : List Text) (line : Text) (token : Token)
variable (hshows : screen.Shows above line below token)

-- how the text in front of the brackets falls into lines: whole ones, and what is left in the line of the brackets
variable (gap : Text) (front : List Text) (left : Text)
variable (hfront : (front.flatMap fun line => line ++ [lineFeed]) ++ left =
  line.take token.start.toNat ++ (Text.of "\x7b" ++ token.text ++ gap))
variable (hunbroken : ∀ piece ∈ front, lineFeed ∉ piece) (hleft : lineFeed ∉ left)

include hshows hfront hunbroken hleft

theorem lines_of_front :
    (screen.replace (bracketed token.text gap) ⟨screen.cursor.line, token.start⟩
      ⟨screen.cursor.line, token.stop⟩).lines =
        above ++ front ++ (left ++ (Text.of "[]\x7d" ++ line.drop token.stop.toNat)) :: below := by
  let last : Text := left ++ (Text.of "[]\x7d" ++ line.drop token.stop.toNat)
  have hpieces : Text.unlines (front ++ [last]) =
      line.take token.start.toNat ++ bracketed token.text gap ++ line.drop token.stop.toNat := by
    calc Text.unlines (front ++ [last])
        = (front.flatMap fun line => line ++ [lineFeed]) ++ last := by
          rw [Text.unlines_append front [last] (by simp)]
          exact congrArg _ List.intercalate_singleton
      _ = line.take token.start.toNat ++ bracketed token.text gap ++ line.drop token.stop.toNat := by
          rw [← List.append_assoc, hfront, bracketed]
          simp only [List.append_assoc]
  have hlast : lineFeed ∉ last := by
    have hbrackets : lineFeed ∉ Text.of "[]\x7d" := by decide
    have hrest : lineFeed ∉ line.drop token.stop.toNat :=
      fun h => hshows.lineFeed_not_mem_line (List.mem_of_mem_drop h)
    simp only [last, List.mem_append, hleft, hbrackets, hrest, or_self, not_false_eq_true]
  have hall : ∀ piece ∈ front ++ [last], lineFeed ∉ piece := by
    intro piece hpiece
    rcases List.mem_append.mp hpiece with hpiece | hpiece
    · exact hunbroken piece hpiece
    · rw [List.mem_singleton.mp hpiece]
      exact hlast
  rw [hshows.cursor, screen.lines_replace above below line hshows.lines _ _ _ _ (by simp) hpieces hall]
  simp [last]

/-- The brackets come after the front lines and what is left of the last one, and the cursor after the first of
them. -/
theorem opens_of_front :
    screen.Opens { screen.replace (bracketed token.text gap) ⟨screen.cursor.line, token.start⟩
      ⟨screen.cursor.line, token.stop⟩ with cursor := ⟨above.length + front.length, left.length + 1⟩ } token gap := by
  let after : Screen := { screen.replace (bracketed token.text gap) ⟨screen.cursor.line, token.start⟩
    ⟨screen.cursor.line, token.stop⟩ with cursor := ⟨above.length + front.length, left.length + 1⟩ }
  have hlines : after.lines =
      above ++ front ++ (left ++ (Text.of "[]\x7d" ++ line.drop token.stop.toNat)) :: below :=
    lines_of_front screen above below line token hshows gap front left hfront hunbroken hleft
  have hcursor : after.cursor = ⟨(above ++ front).length, left.length + 1⟩ := by
    simp [after]
  refine ⟨hshows.text_eq, screen.text_replace _ _ _, ?_, ?_⟩
  · exact ⟨above ++ front, left, _, below, hlines, hcursor⟩
  · change after.before after.cursor = _
    have htake : (left ++ (Text.of "[]\x7d" ++ line.drop token.stop.toNat)).take ((left.length : Int) + 1).toNat =
        left ++ Text.of "[" := by
      have hcolumn : ((left.length : Int) + 1).toNat = left.length + 1 := by omega
      rw [hcolumn, List.take_length_add_append]
      rfl
    rw [hcursor, after.before_eq (above ++ front) below _ hlines, hshows.cursor,
      screen.before_eq above below line hshows.lines, htake]
    calc ((above ++ front).flatMap fun line => line ++ [lineFeed]) ++ (left ++ Text.of "[")
        = (above.flatMap fun line => line ++ [lineFeed]) ++
            (((front.flatMap fun line => line ++ [lineFeed]) ++ left) ++ Text.of "[") := by
          rw [List.flatMap_append]
          simp only [List.append_assoc]
      _ = (above.flatMap fun line => line ++ [lineFeed]) ++ line.take token.start.toNat ++
            (Text.of "\x7b" ++ token.text ++ gap ++ Text.of "[") := by
          rw [hfront]
          simp only [List.append_assoc]

end Opening

section Joining

variable (screen : Screen) (above below : List Text) (line : Text) (token : Token)
variable (hshows : screen.Shows above line below token) (indent : Int)

include hshows

theorem lineFeed_not_mem_key :
    lineFeed ∉ line.take token.start.toNat ++ (Text.of "\x7b" ++ token.text) := by
  have hbrace : lineFeed ∉ Text.of "\x7b" := by decide
  have hfront : lineFeed ∉ line.take token.start.toNat :=
    fun h => hshows.lineFeed_not_mem_line (List.mem_of_mem_take h)
  simp only [List.mem_append, hfront, hbrace, hshows.lineFeed_not_mem_text, or_self, not_false_eq_true]

/-- At the start of an indented line: the key ends its line, and the margin begins the next. -/
theorem opens_below (hindent : token.start = indent) :
    screen.Opens { screen.replace (joined token indent screen.cursor.line).1 ⟨screen.cursor.line, token.start⟩
      ⟨screen.cursor.line, token.stop⟩ with cursor := (joined token indent screen.cursor.line).2 } token
      (gap token indent) := by
  have hnonneg := hshows.start_nonneg
  have hwidth : (indent + 1).toNat = indent.toNat + 1 := by omega
  let margin : Text := List.replicate (indent.toNat + 1) (Letter.ofChar ' ')
  have hmargin : lineFeed ∉ margin := fun h => absurd (List.eq_of_mem_replicate h) (by decide)
  have hgap : gap token indent = lineFeed :: margin := if_pos hindent
  have hjoined : joined token indent screen.cursor.line =
      (bracketed token.text (gap token indent), ⟨above.length + 1, margin.length + 1⟩) := by
    have hcolumn : indent + 2 = (margin.length : Int) + 1 := by
      rw [List.length_replicate]
      omega
    rw [joined, if_pos hindent, blanks, hwidth, hcolumn, hgap, bracketed, hshows.cursor]
    simp only [List.append_assoc]
    rfl
  rw [hjoined]
  refine opens_of_front screen above below line token hshows (gap token indent)
    [line.take token.start.toNat ++ (Text.of "\x7b" ++ token.text)] margin ?_ ?_ hmargin
  · rw [hgap]
    simp
  · intro piece hpiece
    rw [List.mem_singleton.mp hpiece]
    exact lineFeed_not_mem_key screen above below line token hshows

/-- Elsewhere the line goes on with a blank. -/
theorem opens_in_line (hindent : token.start ≠ indent) :
    screen.Opens { screen.replace (joined token indent screen.cursor.line).1 ⟨screen.cursor.line, token.start⟩
      ⟨screen.cursor.line, token.stop⟩ with cursor := (joined token indent screen.cursor.line).2 } token
      (gap token indent) := by
  have hgap : gap token indent = [Letter.ofChar ' '] := if_neg hindent
  let left : Text := line.take token.start.toNat ++ (Text.of "\x7b" ++ token.text ++ gap token indent)
  have hlength : (left.length : Int) = token.start + token.text.length + 2 := by
    have hnonneg := hshows.start_nonneg
    have hstop := hshows.start_le_stop
    have hinside := hshows.stop_le_length
    have hbrace : (Text.of "\x7b").length = 1 := rfl
    simp only [left, hgap, List.length_append, List.length_take, hbrace, List.length_singleton]
    omega
  have hjoined : joined token indent screen.cursor.line =
      (bracketed token.text (gap token indent), ⟨above.length + ([] : List Text).length, left.length + 1⟩) := by
    have hcolumn : token.start + token.text.length + 3 = (left.length : Int) + 1 := by omega
    rw [joined, if_neg hindent, hcolumn, hgap, bracketed, hshows.cursor]
    simp
    rfl
  rw [hjoined]
  refine opens_of_front screen above below line token hshows (gap token indent) [] left rfl ?_ ?_
  · intro piece hpiece
    cases hpiece
  · have hkey := lineFeed_not_mem_key screen above below line token hshows
    have hblank : lineFeed ≠ Letter.ofChar ' ' := by decide
    simp only [left, hgap, ← List.append_assoc, List.mem_append, List.mem_singleton] at hkey ⊢
    tauto

end Joining

end Screen

/-- The margin of a join in a line that is shorter than what fits in memory can be written. -/
theorem length_of_joinFault? (screen : Screen) (above below : List Text) (line : Text) (token : Token)
    (hshows : screen.Shows above line below token) (limit : Int) (fault : IndentFault)
    (h : joinFault? limit token = some fault) :
    limit ≤ line.length ∨ wordBound ≤ line.length + 1 := by
  obtain ⟨indent, -, hfault⟩ := Option.bind_eq_some_iff.mp h
  split_ifs at hfault with hindent
  have hnonneg := hshows.start_nonneg
  have hinside := Int.le_trans hshows.start_le_stop hshows.stop_le_length
  by_contra hshort
  have hwide : ¬ (indent + 1 < -wordBound || wordBound ≤ indent + 1) = true := by
    simp only [Bool.or_eq_true, decide_eq_true_eq]
    unfold wordBound at hshort ⊢
    omega
  rw [widthFault?, if_neg hwide, if_neg (by omega)] at hfault
  cases hfault

/-- A composite attribute in an attribute list becomes a join: executed in order, the calls put a gap and brackets
behind its key, change nothing else, leave the cursor between the brackets, and last of all show the hints. For any
other token there are no calls. A machine makes the same calls in every line that is not longer than what fits in
its memory. -/
theorem join_opens_brackets (screen : Screen) (above below : List Text) (line : Text) (token : Token)
    (hshows : screen.Shows above line below token) (limit : Int) :
    (∀ indent, InList token indent → ∃ edits,
      join token screen.cursor = some (edits ++ [.showHint]) ∧ .showHint ∉ edits ∧
        screen.Opens (screen.executeAll (edits ++ [.showHint])) token (gap token indent)) ∧
    ((∀ indent, ¬ InList token indent) → join token screen.cursor = none) ∧
    (line.length < limit → line.length + 1 < wordBound →
      tryJoin limit token screen.cursor = .ok (join token screen.cursor)) := by
  refine ⟨?_, ?_, ?_⟩
  · intro indent hlist
    refine ⟨[.replace (joined token indent screen.cursor.line).1 ⟨screen.cursor.line, token.start⟩
      ⟨screen.cursor.line, token.stop⟩, .moveCursor (joined token indent screen.cursor.line).2], ?_, by simp, ?_⟩
    · rw [join, (joinIndent?_eq_some_iff token indent).mpr hlist]
      rfl
    · by_cases hindent : token.start = indent
      · exact screen.opens_below above below line token hshows indent hindent
      · exact screen.opens_in_line above below line token hshows indent hindent
  · intro hnone
    cases hindent : joinIndent? token with
    | none => rw [join, hindent]; rfl
    | some indent => exact absurd ((joinIndent?_eq_some_iff token indent).mp hindent) (hnone indent)
  · intro hshort hword
    cases hfault : joinFault? limit token with
    | none => rw [tryJoin, hfault]
    | some fault =>
      have hlong := length_of_joinFault? screen above below line token hshows limit fault hfault
      omega

def listScreen : Screen where
  lines := ["[:user/id", " :user/friends :user/name]"]
  cursor := ⟨1, 14⟩
  unbroken := by decide

def friendsToken : Token :=
  ⟨":user/friends", 1, 14, .composite, [.mk (some .attrList) .absent 1]⟩

/-- The rest of the line moves to the next one, behind the brackets. -/
theorem join_opens_brackets_friends :
    listScreen.Shows ["[:user/id"] " :user/friends :user/name]" [] friendsToken ∧ InList friendsToken 1 ∧
    ∃ calls, join friendsToken listScreen.cursor = some calls ∧
      (listScreen.executeAll calls).text =
        Text.of "[:user/id\n \x7b:user/friends\n  []\x7d :user/name]" ∧
      (listScreen.executeAll calls).CursorBetween '[' ']' := by
  have hshows : listScreen.Shows ["[:user/id"] " :user/friends :user/name]" [] friendsToken :=
    ⟨rfl, rfl, by decide, by decide, by decide, by decide⟩
  have hlist : InList friendsToken 1 := ⟨rfl, .absent, [], rfl⟩
  obtain ⟨edits, hjoin, -, hopens⟩ := (join_opens_brackets listScreen _ _ _ friendsToken hshows 80).1 1 hlist
  refine ⟨hshows, hlist, _, hjoin, ?_, hopens.cursor⟩
  rw [hopens.new]
  rfl

end QueryHints.Editor
