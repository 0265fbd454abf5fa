import Mathlib.Data.List.Basic
import QueryHints.Editor

namespace QueryHints

open Letter (lineFeed)

namespace Text

def unlines (lines : List Text) : Text :=
  [lineFeed].intercalate lines

theorem unlines_cons (line : Text) (below : List Text) :
    unlines (line :: below) = line ++ below.flatMap fun next => lineFeed :: next := by
  induction below generalizing line with
  | nil => simp [unlines]
  | cons next rest ih =>
    have hnext := ih next
    unfold unlines at hnext ⊢
    rw [List.intercalate_cons_cons, hnext]
    simp

theorem unlines_append (above lines : List Text) (h : lines ≠ []) :
    unlines (above ++ lines) = (above.flatMap fun line => line ++ [lineFeed]) ++ unlines lines := by
  induction above with
  | nil => rfl
  | cons line rest ih =>
    have hne : rest ++ lines ≠ [] := by simp [h]
    have hstep : unlines (line :: (rest ++ lines)) = line ++ [lineFeed] ++ unlines (rest ++ lines) :=
      List.intercalate_cons_of_ne_nil hne
    rw [List.cons_append, hstep, ih]
    simp

/-- Lines with others above and below them. -/
theorem unlines_between (above lines below : List Text) (h : lines ≠ []) :
    unlines (above ++ lines ++ below) = (above.flatMap fun line => line ++ [lineFeed]) ++ unlines lines ++
      below.flatMap fun line => lineFeed :: line := by
  cases lines with
  | nil => exact absurd rfl h
  | cons first rest =>
    rw [List.append_assoc, unlines_append above _ (by simp), List.cons_append, unlines_cons, unlines_cons]
    simp

theorem lineFeed_not_mem_of_mem_splitOn (t line : Text) (h : line ∈ t.splitOn lineFeed) : lineFeed ∉ line := by
  induction t generalizing line with
  | nil => simp_all
  | cons c rest ih =>
    rw [List.splitOn_cons_eq_if_modifyHead] at h
    split_ifs at h with hc
    · rcases List.mem_cons.mp h with rfl | hrest
      · simp
      · exact ih line hrest
    · -- the letter goes to the front of the first line of the rest
      cases hlines : rest.splitOn lineFeed with
      | nil => exact absurd hlines (List.splitOn_ne_nil _ _)
      | cons first others =>
        rw [hlines, List.modifyHead_cons] at h
        rw [hlines] at ih
        rcases List.mem_cons.mp h with rfl | hothers
        · have hne : lineFeed ≠ c := fun h => hc (beq_iff_eq.mpr h.symm)
          simpa [hne] using ih first List.mem_cons_self
        · exact ih line (List.mem_cons_of_mem _ hothers)

end Text

namespace Editor

structure Screen where
  lines : List Text
  cursor : Position
  unbroken : ∀ line ∈ lines, lineFeed ∉ line

namespace Screen

def text (screen : Screen) : Text :=
  Text.unlines screen.lines

def lineAt (screen : Screen) (n : Int) : Text :=
  (screen.lines[n.toNat]?).getD []

def before (screen : Screen) (position : Position) : Text :=
  ((screen.lines.take position.line.toNat).flatMap fun line => line ++ [lineFeed]) ++
    (screen.lineAt position.line).take position.ch.toNat

def behind (screen : Screen) (position : Position) : Text :=
  (screen.lineAt position.line).drop position.ch.toNat ++
    (screen.lines.drop (position.line.toNat + 1)).flatMap fun line => lineFeed :: line

def replace (screen : Screen) (new : Text) (start stop : Position) : Screen where
  lines := (screen.before start ++ new ++ screen.behind stop).splitOn lineFeed
  cursor := screen.cursor
  unbroken := Text.lineFeed_not_mem_of_mem_splitOn _

def execute (screen : Screen) : Call → Screen
  | .replace new start stop => screen.replace new start stop
  | .moveCursor position => { screen with cursor := position }
  | .showHint => screen

def executeAll (screen : Screen) (calls : List Call) : Screen :=
  calls.foldl execute screen

/-- Replacing leaves all that is in front of the first position and all that is behind the second. -/
theorem text_replace (screen : Screen) (new : Text) (start stop : Position) :
    (screen.replace new start stop).text = screen.before start ++ new ++ screen.behind stop :=
  List.intercalate_splitOn lineFeed

section Lines

variable (screen : Screen) (above below : List Text) (line : Text)
variable (hlines : screen.lines = above ++ line :: below)

include hlines

theorem lineAt_eq : screen.lineAt above.length = line := by
  simp [lineAt, hlines]

theorem before_eq (ch : Int) :
    screen.before ⟨above.length, ch⟩ = (above.flatMap fun line => line ++ [lineFeed]) ++ line.take ch.toNat := by
  simp [before, screen.lineAt_eq above below line hlines, hlines]

theorem behind_eq (ch : Int) :
    screen.behind ⟨above.length, ch⟩ = line.drop ch.toNat ++ below.flatMap fun line => lineFeed :: line := by
  have hdrop : (above ++ line :: below).drop (above.length + 1) = below := by
    rw [List.drop_append, List.drop_of_length_le (by omega)]
    simp
  simp [behind, screen.lineAt_eq above below line hlines, hlines, hdrop]

/-- A replacement in a line, given the lines that this line becomes. -/
theorem before_append_behind (new : Text) (start stop : Int) (pieces : List Text) (hne : pieces ≠ [])
    (hpieces : Text.unlines pieces = line.take start.toNat ++ new ++ line.drop stop.toNat) :
    screen.before ⟨above.length, start⟩ ++ new ++ screen.behind ⟨above.length, stop⟩ =
      Text.unlines (above ++ pieces ++ below) := by
  rw [screen.before_eq above below line hlines, screen.behind_eq above below line hlines,
    Text.unlines_between above pieces below hne, hpieces]
  simp only [List.append_assoc]

/-- A replacement that brings no new lines changes the line that it is made in. -/
theorem text_replace_in_line (new : Text) (start stop : Int) :
    (screen.replace new ⟨above.length, start⟩ ⟨above.length, stop⟩).text =
      Text.unlines (above ++ (line.take start.toNat ++ new ++ line.drop stop.toNat) :: below) := by
  have hpiece : Text.unlines [line.take start.toNat ++ new ++ line.drop stop.toNat] =
      line.take start.toNat ++ new ++ line.drop stop.toNat := List.intercalate_singleton
  rw [text_replace, screen.before_append_behind above below line hlines new start stop _ (by simp) hpiece]
  simp

/-- The lines after a replacement, if the line becomes lines without a line feed. -/
theorem lines_replace (new : Text) (start stop : Int) (pieces : List Text) (hne : pieces ≠ [])
    (hpieces : Text.unlines pieces = line.take start.toNat ++ new ++ line.drop stop.toNat)
    (hunbroken : ∀ piece ∈ pieces, lineFeed ∉ piece) :
    (screen.replace new ⟨above.length, start⟩ ⟨above.length, stop⟩).lines = above ++ pieces ++ below := by
  have hall : ∀ other ∈ above ++ pieces ++ below, lineFeed ∉ other := by
    intro other hother
    have hscreen := screen.unbroken other
    rw [hlines] at hscreen
    rcases List.mem_append.mp hother with hfront | hbelow
    · rcases List.mem_append.mp hfront with habove | hpiece
      · exact hscreen (List.mem_append_left _ habove)
      · exact hunbroken other hpiece
    · exact hscreen (List.mem_append_right _ (List.mem_cons_of_mem _ hbelow))
  have htext := screen.before_append_behind above below line hlines new start stop pieces hne hpieces
  calc (screen.replace new ⟨above.length, start⟩ ⟨above.length, stop⟩).lines
      = (Text.unlines (above ++ pieces ++ below)).splitOn lineFeed := congrArg (List.splitOn lineFeed) htext
    _ = above ++ pieces ++ below := List.splitOn_intercalate lineFeed hall (by simp [hne])

end Lines

/-- A token in the cursor's line, with the lines above and below it: its columns are in the line, and its text is
what stands between them. -/
structure Shows (screen : Screen) (above : List Text) (line : Text) (below : List Text) (token : Token) : Prop where
  lines : screen.lines = above ++ line :: below
  cursor : screen.cursor.line = above.length
  start_nonneg : 0 ≤ token.start
  start_le_stop : token.start ≤ token.stop
  stop_le_length : token.stop ≤ line.length
  text : (line.take token.stop.toNat).drop token.start.toNat = token.text

namespace Shows

variable {screen : Screen} {above below : List Text} {line : Text} {token : Token}
variable (hshows : screen.Shows above line below token)

include hshows

/-- The line of a token is what stands in front of it, the token, and what stands behind it. -/
theorem line_eq : line.take token.start.toNat ++ token.text ++ line.drop token.stop.toNat = line := by
  have hcolumns : token.start.toNat ≤ token.stop.toNat := Int.toNat_le_toNat hshows.start_le_stop
  have hfront : (line.take token.stop.toNat).take token.start.toNat = line.take token.start.toNat := by
    rw [List.take_take, Nat.min_eq_left hcolumns]
  rw [← hshows.text, ← hfront, List.take_append_drop, List.take_append_drop]

theorem lineFeed_not_mem_line : lineFeed ∉ line := by
  apply screen.unbroken
  rw [hshows.lines]
  exact List.mem_append_right _ List.mem_cons_self

theorem lineFeed_not_mem_text : lineFeed ∉ token.text := by
  rw [← hshows.text]
  intro h
  exact hshows.lineFeed_not_mem_line (List.mem_of_mem_take (List.mem_of_mem_drop h))

/-- The text is what is in front of the token, the token, and what is behind it. -/
theorem text_eq : screen.text = screen.before ⟨screen.cursor.line, token.start⟩ ++ token.text ++
    screen.behind ⟨screen.cursor.line, token.stop⟩ := by
  have hpiece : Text.unlines [line] =
      line.take token.start.toNat ++ token.text ++ line.drop token.stop.toNat := by
    rw [hshows.line_eq]
    exact List.intercalate_singleton
  rw [hshows.cursor, screen.before_append_behind above below line hshows.lines _ _ _ _ (by simp) hpiece,
    Screen.text, hshows.lines]
  simp

end Shows

end Screen

end Editor

end QueryHints
