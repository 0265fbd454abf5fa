import Mathlib.Data.List.TakeWhile
import Mathlib.Tactic.SplitIfs
import QueryHints.CommandLine.Completing

namespace QueryHints

namespace Text

def wide (s : Text) : Text :=
  s.filter fun c => 128 ≤ c.code

@[simp]
theorem wide_nil : wide [] = [] := rfl

@[simp]
theorem wide_append (s t : Text) : wide (s ++ t) = wide s ++ wide t :=
  List.filter_append s t

theorem wide_eq_nil (s : Text) (h : ∀ c ∈ s, c.code < 128) : wide s = [] := by
  rw [wide, List.filter_eq_nil_iff]
  intro c hc
  have hascii := h c hc
  simpa using hascii

theorem wide_of_append (s t : String) : wide (Text.of (s ++ t)) = wide (Text.of s) ++ wide (Text.of t) := by
  rw [Text.of, String.toList_append, List.map_append, wide_append]
  rfl

theorem wide_of_blanks (n : Nat) : wide (Text.of (String.ofList (List.replicate n ' '))) = [] := by
  apply wide_eq_nil
  intro c hc
  rw [Text.of, String.toList_ofList, List.map_replicate] at hc
  rw [List.eq_of_mem_replicate hc]
  decide

theorem wide_intercalate (between : Text) (parts : List Text) (h : wide between = []) :
    wide (List.intercalate between parts) = parts.flatMap wide := by
  induction parts with
  | nil => rfl
  | cons part rest ih =>
    cases rest with
    | nil => simp
    | cons next rest =>
      rw [List.intercalate_cons_cons, wide_append, wide_append, h, ih]
      simp

end Text

open Text (wide)

theorem wide_digits (n : Nat) : wide (Text.of (toString n)) = [] := by
  apply Text.wide_eq_nil
  intro c hc
  have hrepr : toString n = String.ofList (Nat.toDigits 10 n) := Nat.repr_eq_ofList_toDigits
  rw [Text.of, hrepr, String.toList_ofList] at hc
  obtain ⟨digit, hdigit, rfl⟩ := List.mem_map.mp hc
  have hrange : digit.isDigit = true := Nat.isDigit_of_mem_toDigits (by decide) (by decide) hdigit
  rw [Char.isDigit, Bool.and_eq_true, decide_eq_true_eq, decide_eq_true_eq] at hrange
  have hle : digit.toNat ≤ 57 := hrange.2
  rw [Letter.code_ofChar]
  omega

/-- Numbers are written in ASCII letters. -/
theorem wide_number (n : Int) : wide (Text.of (toString n)) = [] := by
  cases n with
  | ofNat n => exact wide_digits n
  | negSucc n =>
    have hrepr : toString (Int.negSucc n) = "-" ++ toString (n + 1) := rfl
    rw [hrepr, Text.wide_of_append, wide_digits]
    rfl

namespace Json

/-- Inside a JSON text only ASCII letters are escaped, and by ASCII letters. -/
theorem wide_escaped (c : Letter) : wide (escaped c) = wide [c] := by
  have hcontrol : ∀ n < 0x20, wide ((Text.hexDigits 4 n).map Letter.ofChar) = [] := by decide
  unfold escaped
  split_ifs with hquote hslash hfeed hreturn htab hform hback hlow
  · rw [hquote]; rfl
  · rw [hslash]; rfl
  · rw [hfeed]; rfl
  · rw [hreturn]; rfl
  · rw [htab]; rfl
  · have hnarrow : ¬ 128 ≤ c.code := by omega
    simp [wide, hnarrow]
  · have hnarrow : ¬ 128 ≤ c.code := by omega
    simp [wide, hnarrow]
  · have hnarrow : ¬ 128 ≤ c.code := by omega
    have hdigits := hcontrol c.code hlow
    rw [wide] at hdigits
    simp [wide, hnarrow, hdigits]
  · rfl

/-- Escaping leaves the letters that are not ASCII as they are. -/
theorem wide_quoted (s : Text) : wide (quoted s) = wide s := by
  have hescaped : wide (s.flatMap escaped) = wide s := by
    induction s with
    | nil => rfl
    | cons c rest ih =>
      rw [List.flatMap_cons, Text.wide_append, wide_escaped, ih, ← Text.wide_append, List.singleton_append]
  rw [quoted, Text.wide_append, Text.wide_append, hescaped]
  simp [wide, Text.of]

theorem wide_newline (level : Nat) : wide (newline level) = [] := by
  apply Text.wide_eq_nil
  intro c hc
  rcases List.mem_cons.mp hc with rfl | hblank
  · decide
  · rw [List.eq_of_mem_replicate hblank]
    decide

theorem wide_bracketed (level : Nat) (opening closing : Text) (items : List Text) (ho : wide opening = [])
    (hc : wide closing = []) : wide (bracketed level opening closing items) = items.flatMap wide := by
  have hbetween : wide (Text.of "," ++ newline (level + 1)) = [] := by
    rw [Text.wide_append, wide_newline]
    rfl
  cases items with
  | nil => simp [bracketed, ho, hc]
  | cons item rest =>
    simp only [bracketed, List.isEmpty_cons, Bool.false_eq_true, if_false, Text.wide_append, ho, hc,
      wide_newline, Text.wide_intercalate _ _ hbetween, List.nil_append, List.append_nil]

theorem wide_indentedItems (level : Nat) (texts : List Text) :
    (indentedItems level (texts.map .text)).flatMap wide = texts.flatMap wide := by
  induction texts with
  | nil => rfl
  | cons s rest ih =>
    rw [List.map_cons, indentedItems, List.flatMap_cons, ih, indented, compact, wide_quoted, List.flatMap_cons]
    all_goals simp

end Json

namespace CommandLine

namespace Console

variable (console : Console)

theorem fault?_eq_none_iff (s : Text) : console.fault? s = none ↔ ∀ c ∈ s, console.takes c = true := by
  unfold fault?
  rw [← List.dropWhile_eq_nil_iff]
  cases s.dropWhile console.takes <;> simp

/-- Only letters that are not ASCII can be refused. -/
theorem takes_all_iff (s : Text) :
    (∀ c ∈ s, console.takes c = true) ↔ ∀ c ∈ wide s, console.takes c = true := by
  constructor
  · exact fun h c hc => h c (List.mem_filter.mp hc).1
  · intro h c hc
    by_cases hwide : 128 ≤ c.code
    · exact h c (List.mem_filter.mpr ⟨hc, by simpa using hwide⟩)
    · exact console.takesAscii c (Nat.lt_of_not_le hwide)

/-- All texts are printed, or the first one that cannot be printed ends it. -/
theorem print_cases (printed : Text) (texts : List Text) :
    ((∀ c ∈ wide texts.flatten, console.takes c = true) ∧
        console.print printed texts = .ok (printed ++ texts.flatten)) ∨
      (¬ ∀ c ∈ wide texts.flatten, console.takes c = true) ∧
        ∃ before s after fault, texts = before ++ s :: after ∧ console.fault? s = some fault ∧
          console.print printed texts = .error (printed ++ before.flatten, fault) := by
  induction texts generalizing printed with
  | nil => exact Or.inl ⟨nofun, by simp [print]⟩
  | cons s rest ih =>
    rw [List.flatten_cons, Text.wide_append, List.forall_mem_append, ← takes_all_iff, ← fault?_eq_none_iff]
    cases hs : console.fault? s with
    | some fault => exact Or.inr ⟨by simp, [], s, rest, fault, rfl, hs, by simp [print, hs]⟩
    | none =>
      rcases ih (printed ++ s) with ⟨hall, hprint⟩ | ⟨hsome, before, t, after, fault, rfl, hfault, hprint⟩
      · exact Or.inl ⟨⟨rfl, hall⟩, by simp [print, hs, hprint]⟩
      · refine Or.inr ⟨fun h => hsome h.2, s :: before, t, after, fault, rfl, hfault, ?_⟩
        simp [print, hs, hprint]

/-- Printing breaks if and only if some letter that is not ASCII is not taken. -/
theorem print_eq_error_iff (texts : List Text) :
    (∃ stop, console.print [] texts = .error stop) ↔ ∃ c ∈ wide texts.flatten, console.takes c = false := by
  rcases console.print_cases [] texts with ⟨hall, hprint⟩ | ⟨hsome, _, _, _, _, _, _, hprint⟩
  · rw [hprint]
    simp only [reduceCtorEq, exists_false, false_iff, not_exists, not_and, Bool.not_eq_false]
    exact hall
  · rw [hprint]
    simpa using hsome

end Console

namespace Completing

variable (settings : Settings)

def Written.Placed (w : Written) : Prop :=
  (∃ m n, w.replaceFrom = .int m ∧ w.replaceTo = .int n) ∨ w.replaceFrom = .list [] ∧ w.replaceTo = .list []

theorem placed_of_answer (index : Index) (token : Token) (w : Written)
    (h : answer settings index token = .ok (some w)) : w.Placed := by
  have hmap (f : Completion → Written) (hf : ∀ c, (f c).Placed) (result : Except Escape (Option Completion))
      (hw : result.map (·.map f) = .ok (some w)) : w.Placed := by
    cases result with
    | error fault => cases hw
    | ok c =>
      obtain ⟨c, -, rfl⟩ := Option.map_eq_some_iff.mp (Except.ok.inj hw)
      exact hf c
  have hplaced (c : Completion) : (Written.ofCompletion c).Placed := Or.inl ⟨_, _, rfl, rfl⟩
  unfold answer at h
  dsimp only at h
  split at h
  · exact hmap _ hplaced _ h
  · exact hmap _ hplaced _ h
  · split at h
    · exact hmap _ (fun c => Or.inr ⟨rfl, rfl⟩) _ h
    · cases h

theorem wide_wordLines (start : Nat) (words : List Text) :
    wide (wordLines start words).flatten = words.flatMap wide := by
  have hnumbered (n : Nat) : wide (Text.of (numbered n ++ " ")) = [] := by
    rw [numbered, Text.wide_of_append, Text.wide_of_append, wide_digits, Text.wide_of_blanks]
    rfl
  have hbreak : wide (Text.of "\n") = [] := rfl
  induction words generalizing start with
  | nil => rfl
  | cons word rest ih =>
    rw [wordLines, List.flatten_cons, Text.wide_append, ih, Text.wide_append, Text.wide_append, hnumbered, hbreak]
    simp

/-- On a line and in a document, places are written in ASCII letters. -/
theorem Written.Placed.narrow {w : Written} (h : w.Placed) :
    ∀ place ∈ [w.replaceFrom, w.replaceTo],
      wide (Text.of place.literal) = [] ∧ ∀ level, wide (place.indented level) = [] := by
  have hnumber (n : Int) : wide (Text.of (Json.int n).literal) = [] ∧
      ∀ level, wide ((Json.int n).indented level) = [] := by
    rw [Json.literal]
    exact ⟨wide_number n, fun _ => wide_number n⟩
  have hnowhere : wide (Text.of (Json.list []).literal) = [] ∧ ∀ level, wide ((Json.list []).indented level) = [] :=
    ⟨rfl, fun _ => rfl⟩
  rcases h with ⟨m, n, hm, hn⟩ | ⟨hm, hn⟩
  · rw [hm, hn]
    simp [hnumber m, hnumber n]
  · rw [hm, hn]
    simp [hnowhere]

/-- A listing has no wide letters but those of its candidates. -/
theorem wide_listing (w : Written) (h : w.Placed) :
    wide (listing (some w)).flatten = w.candidates.flatMap wide := by
  have hfrom := (h.narrow w.replaceFrom (by simp)).1
  have hto := (h.narrow w.replaceTo (by simp)).1
  have hopen : wide (Text.of "replace [") = [] := rfl
  have hcomma : wide (Text.of ", ") = [] := rfl
  have hclose : wide (Text.of ")\n") = [] := rfl
  rw [listing, List.flatten_cons, Text.wide_append, wide_wordLines]
  simp only [Text.wide_of_append, hfrom, hto, hopen, hcomma, hclose, List.nil_append]

/-- Neither has a document. -/
theorem wide_document (w : Written) (h : w.Placed) :
    wide (document (some w)) = w.candidates.flatMap wide := by
  have hfrom := (h.narrow w.replaceFrom (by simp)).2 1
  have hto := (h.narrow w.replaceTo (by simp)).2 1
  have hcandidates : wide (Json.indented 1 (.list (w.candidates.map .text))) = w.candidates.flatMap wide := by
    rw [Json.indented, Json.wide_bracketed _ _ _ _ rfl rfl, Json.wide_indentedItems]
  have hcolon : wide (Text.of ": ") = [] := rfl
  have hbreak : wide (Text.of "\n") = [] := rfl
  have hnames : wide (Text.of "candidates") = [] ∧ wide (Text.of "replace_from") = [] ∧
      wide (Text.of "replace_to") = [] := ⟨rfl, rfl, rfl⟩
  rw [document, Option.map_some, Option.getD_some, Written.toJson, Json.indented, Text.wide_append,
    Json.wide_bracketed _ _ _ _ rfl rfl, hbreak]
  simp only [Json.indentedFields, List.flatMap_cons, List.flatMap_nil, Text.wide_append, Json.wide_quoted,
    hnames, hcolon, hcandidates, hfrom, hto, List.nil_append, List.append_nil]

/-- What is printed of an answer besides ASCII are the letters of its candidates, in their order. -/
theorem wide_pieces (w : Written) (h : w.Placed) :
    wide (pieces settings (some w)).flatten = w.candidates.flatMap wide := by
  unfold pieces
  split
  · rw [List.flatten_singleton, wide_document w h]
  · exact wide_listing w h

/-- An answer cannot be printed exactly if some candidate has a letter that cannot. -/
theorem unprintable_iff (console : Console) (w : Written) (h : w.Placed) :
    (∃ stop, console.print [] (pieces settings (some w)) = .error stop) ↔
      ∃ word ∈ w.candidates, ∃ c ∈ word, console.takes c = false := by
  rw [console.print_eq_error_iff, wide_pieces settings w h]
  constructor
  · rintro ⟨c, hc, hrefused⟩
    obtain ⟨word, hword, hmem⟩ := List.mem_flatMap.mp hc
    exact ⟨word, hword, c, (List.mem_filter.mp hmem).1, hrefused⟩
  · rintro ⟨word, hword, c, hc, hrefused⟩
    have hwide : 128 ≤ c.code := by
      by_contra hnarrow
      rw [console.takesAscii c (Nat.lt_of_not_le hnarrow)] at hrefused
      cases hrefused
    have hmem : c ∈ wide word := List.mem_filter.mpr ⟨hc, by simpa using hwide⟩
    exact ⟨c, List.mem_flatMap.mpr ⟨word, hword, hmem⟩, hrefused⟩

/-- That there is no answer can always be printed. -/
theorem print_nothing (console : Console) :
    console.print [] (pieces settings none) = .ok (pieces settings none).flatten := by
  have hwide : wide (pieces settings none).flatten = [] := by
    unfold pieces
    split <;> rfl
  rcases console.print_cases [] (pieces settings none) with ⟨-, hprint⟩ | ⟨hsome, -⟩
  · exact hprint
  · rw [hwide] at hsome
    exact absurd nofun hsome

end Completing

end CommandLine

end QueryHints
