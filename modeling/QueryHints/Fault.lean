namespace QueryHints

/-- The classes of fault. A caller that can recover from one class lets the others through. -/
inductive FaultClass
  | value
  | kind
  | range
  | missing
  | directory
  | encoding
  | printing
  | label
  | depth
  | memory
  deriving Repr, DecidableEq

end QueryHints
