import QueryHints.Text.Alike

namespace QueryHints.Search

inductive Item
  | letter (c : Letter)
  | anything
  deriving Repr, DecidableEq

abbrev Pattern := List Item

inductive FragmentFault
  | nul
  deriving Repr, DecidableEq

def FragmentFault.message : FragmentFault → String
  | .nul => "fragment contains a NUL byte"

def Pattern.ofLetters (letters : Text) : Pattern :=
  letters.flatMap fun c => [.letter c, .anything]

def Pattern.ofFragment (fragment : Text) : Except FragmentFault Pattern :=
  if fragment.contains (Letter.ofCode 0) then .error .nul
  else .ok (Pattern.ofLetters fragment)

def specials : Text :=
  ['(', ')', '[', ']', '\x7b', '\x7d', '?', '*', '+', '-', '|', '^', '$', '\\', '.', '&', '~', '#',
    ' ', '\t', '\n', '\r', Char.ofNat 11, Char.ofNat 12]

def Item.text : Item → Text
  | .letter c => if specials.contains c then ['\\', c] else [c]
  | .anything => ['.', '*']

def Pattern.text (p : Pattern) : Text :=
  p.flatMap Item.text

/-- Matches at the front of a text and gives what remains behind the match. Where `anything` may stop at
several places, the longest stretch from which the rest of the pattern matches is taken. -/
def remainder? : Pattern → Text → Option Text
  | [], cs => some cs
  | .letter _ :: _, [] => none
  | .letter p :: items, c :: cs => if Text.alike p c then remainder? items cs else none
  | .anything :: items, [] => remainder? items []
  | .anything :: items, c :: cs =>
    if c = '\n' then remainder? items (c :: cs)
    else (remainder? (.anything :: items) cs).or (remainder? items (c :: cs))

/-- Answers for the suffixes of a text, the text itself first and the empty suffix last. -/
abbrev Row := List (Option Text)

def suffixes : Text → List Text
  | [] => [[]]
  | c :: cs => (c :: cs) :: suffixes cs

def letterRow (p : Letter) : Text → Row → Row
  | c :: cs, _ :: row => (if Text.alike p c then row.headD none else none) :: letterRow p cs row
  | _, _ => [none]

def anythingRow : Text → Row → Row
  | c :: cs, r :: row =>
    let later := anythingRow cs row
    (if c = '\n' then r else (later.headD none).or r) :: later
  | _, row => row

def table (cs : Text) : Pattern → Row
  | [] => (suffixes cs).map some
  | .letter p :: items => letterRow p cs (table cs items)
  | .anything :: items => anythingRow cs (table cs items)

theorem headD_map_suffixes (f : Text → Option Text) (cs : Text) :
    ((suffixes cs).map f).headD none = f cs := by
  cases cs <;> rfl

/-- The row of a letter comes of the row behind it, one suffix further on. -/
theorem letterRow_map_suffixes (p : Letter) (items : Pattern) (cs : Text) :
    letterRow p cs ((suffixes cs).map (remainder? items)) =
      (suffixes cs).map (remainder? (.letter p :: items)) := by
  induction cs with
  | nil => simp [suffixes, letterRow, remainder?]
  | cons c cs ih =>
    simp only [suffixes, List.map_cons, letterRow, headD_map_suffixes, remainder?]
    rw [ih]

/-- The row of a stretch takes for each suffix the answer of the longest stretch that has one. -/
theorem anythingRow_map_suffixes (items : Pattern) (cs : Text) :
    anythingRow cs ((suffixes cs).map (remainder? items)) =
      (suffixes cs).map (remainder? (.anything :: items)) := by
  induction cs with
  | nil => simp [suffixes, anythingRow, remainder?]
  | cons c cs ih =>
    simp only [suffixes, List.map_cons, anythingRow, remainder?]
    rw [ih, headD_map_suffixes]

/-- The table holds the answer of the pattern for every suffix. -/
theorem table_eq_map_suffixes (cs : Text) (p : Pattern) :
    table cs p = (suffixes cs).map (remainder? p) := by
  induction p with
  | nil =>
    have h : remainder? [] = some := by
      funext cs
      rw [remainder?]
    rw [table, h]
  | cons item items ih =>
    cases item with
    | letter p => rw [table, ih, letterRow_map_suffixes]
    | anything => rw [table, ih, anythingRow_map_suffixes]

def firstAnswer? : Row → Option (Nat × Text)
  | [] => none
  | some rest :: _ => some (0, rest)
  | none :: row => (firstAnswer? row).map fun (start, rest) => (start + 1, rest)

def Pattern.span? (p : Pattern) (candidate : Text) : Option (Nat × Nat) :=
  (firstAnswer? (table candidate p)).map fun (start, rest) =>
    (start, candidate.length - rest.length)

def Pattern.hits (p : Pattern) (candidate : Text) : Bool :=
  (p.span? candidate).isSome

end QueryHints.Search
