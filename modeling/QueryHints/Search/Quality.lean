import QueryHints.Text.Letter

namespace QueryHints.Search

def isBoundary (c : Letter) : Bool :=
  c = '/' || c = '.' || c = '-' || c = '_'

def occurrence? (q : Text) : Text → Option Nat
  | [] => if q.isEmpty then some 0 else none
  | c :: rest => if q.isPrefixOf (c :: rest) then some 0 else (occurrence? q rest).map (· + 1)

def startsWord (t : Text) (position : Nat) : Bool :=
  position == 0 || (t[position - 1]?).any isBoundary

def reach? : (q t : Text) → Option Nat
  | [], _ => some 0
  | _ :: _, [] => none
  | a :: q, c :: t => (if a = c then reach? q t else reach? (a :: q) t).map (· + 1)

structure Window where
  start : Nat
  stop : Nat
  deriving Repr, DecidableEq

def Window.width (w : Window) : Nat := w.stop - w.start

def Window.better (best : Option Window) (w : Window) : Window :=
  match best with
  | some b => if w.width < b.width then w else b
  | none => w

def tightestFrom (q : Text) (start : Nat) (best : Option Window) : Text → Option Window
  | [] => best
  | c :: rest =>
    if q.head? = some c then
      match reach? q (c :: rest) with
      | some n => tightestFrom q (start + 1) (some (Window.better best ⟨start, start + n⟩)) rest
      | none => best
    else tightestFrom q (start + 1) best rest

def tightest? (q t : Text) : Option Window :=
  tightestFrom q 0 none t

/-- The points of a folded fragment `q` in a folded candidate `t`. Letters that only the pattern finds
count like an occurrence inside a word. -/
def quality (q t : Text) : Int :=
  let base : Int := 2 * Int.ofNat q.length
  match occurrence? q t with
  | some position => if startsWord t position then base + 1 else base
  | none =>
    match tightest? q t with
    | some w => base - (Int.ofNat w.width - Int.ofNat q.length)
    | none => base

end QueryHints.Search
