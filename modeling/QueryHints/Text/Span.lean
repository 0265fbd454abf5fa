namespace QueryHints.Text

structure Span where
  first : Nat
  last : Nat
  deriving Repr, DecidableEq

def Span.covers (table : List Span) (code : Nat) : Bool :=
  match table.find? fun span => code ≤ span.last with
  | some span => span.first ≤ code
  | none => false

structure Run where
  first : Nat
  last : Nat
  step : Nat
  shift : Int
  deriving Repr, DecidableEq

def Run.moves (run : Run) (code : Nat) : Bool :=
  run.first ≤ code && (code - run.first) % run.step == 0

def Run.target (table : List Run) (code : Nat) : Nat :=
  match table.find? fun run => code ≤ run.last with
  | some run => if run.moves code then (Int.ofNat code + run.shift).toNat else code
  | none => code

end QueryHints.Text
