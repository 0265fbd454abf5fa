import QueryHints.Number.Binary64
import QueryHints.Search.Pattern
import QueryHints.Search.Quality
import QueryHints.Text.Fold

namespace QueryHints.Search

/-- A bare trigger: nothing typed, or only opening brackets and spaces. -/
def isBare (fragment : Text) : Bool :=
  fragment.all fun c => c = '(' || c = '\x7b' || c = '[' || c = ' '

def qualityOf (fragment candidate : Text) : Int :=
  quality fragment.fold candidate.fold

def brevity (candidate : Text) : Rat :=
  mkRat 1 (1 + candidate.length)

def exactScore (fragment candidate : Text) : Rat :=
  (qualityOf fragment candidate : Rat) + brevity candidate

/-- The score in binary64: both parts are rounded, and then their sum. -/
def score (fragment candidate : Text) : Binary64 :=
  (Binary64.ofInt (qualityOf fragment candidate)).add (Binary64.ofRat (brevity candidate))

structure Ranked (σ : Type) where
  text : Text
  score : σ
  deriving Repr

def Ranked.precedes {σ : Type} (less : σ → σ → Bool) (a b : Ranked σ) : Bool :=
  less b.score a.score || (!less a.score b.score && decide (a.text ≤ b.text))

def rankBy {σ : Type} (unscored : σ) (less : σ → σ → Bool) (score : Text → Text → σ)
    (fragment : Text) (candidates : List Text) : Except FragmentFault (List (Ranked σ)) :=
  if isBare fragment then .ok (candidates.map fun c => ⟨c, unscored⟩)
  else match Pattern.ofFragment fragment with
    | .error fault => .error fault
    | .ok pattern =>
      let found := candidates.filter pattern.hits
      .ok ((found.map fun c => ⟨c, score fragment c⟩).mergeSort (Ranked.precedes less))

def rank (fragment : Text) (candidates : List Text) :
    Except FragmentFault (List (Ranked Binary64)) :=
  rankBy (Binary64.ofInt 0) Binary64.lt score fragment candidates

def rankExact (fragment : Text) (candidates : List Text) :
    Except FragmentFault (List (Ranked Rat)) :=
  rankBy 0 (fun a b => a < b) exactScore fragment candidates

end QueryHints.Search
