namespace QueryHints

/-- How far a machine goes before it gives up: how deep JSON may nest, how much room there is for showing a
value as a text, and how wide a margin may be. Of outputs and of keys as many levels can be entered as there
are rooms for what is shown there, the outermost first. -/
structure Limits where
  nesting : Nat
  outputs : List Nat
  inputs : Nat
  texts : Nat
  keys : List Nat
  frames : Nat
  width : Int
  deriving Repr, DecidableEq

/-- The limits of a machine that goes so many calls deep, two for a level of outputs and one for a key. -/
def Limits.ofDepth (calls : Nat) : Limits where
  nesting := calls
  outputs := (List.range (calls / 2)).map fun level => calls - 2 * level
  inputs := calls
  texts := calls
  keys := (List.range calls).map fun level => calls - level
  frames := calls
  width := 0x100000000

end QueryHints
