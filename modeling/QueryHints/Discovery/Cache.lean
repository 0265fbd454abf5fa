import QueryHints.Discovery.Source
import QueryHints.Event

namespace QueryHints

inductive Owner
  | nobody
  | held (id : Nat)
  | passing
  deriving Repr, DecidableEq

/-- Two mentions of an owner are the same one. A passing owner is never met again. -/
def Owner.same (a b : Owner) : Bool :=
  a = b && a ≠ .passing

def Subject.owner : Subject → Owner
  | .held id _ => .held id
  | .plain .. => .passing

structure Cache where
  owner : Owner
  rows : List (Context × Names)

namespace Cache

def empty : Cache := ⟨.nobody, []⟩

instance : Inhabited Cache := ⟨empty⟩

def size (cache : Cache) : Nat := cache.rows.length

def bind (cache : Cache) (owner : Owner) : Cache :=
  if cache.owner.same owner then cache else ⟨owner, []⟩

def dropCount (cache : Cache) (owner : Owner) : Nat :=
  if cache.owner.same owner then 0 else cache.size

def get? (cache : Cache) (context : Context) : Option Names :=
  cache.rows.lookup context

def setRow (context : Context) (names : Names) :
    List (Context × Names) → List (Context × Names)
  | [] => [(context, names)]
  | (c, row) :: rest => if c = context then (c, names) :: rest else (c, row) :: setRow context names rest

def put (cache : Cache) (context : Context) (names : Names) : Cache :=
  { cache with rows := setRow context names cache.rows }

theorem lookup_setRow (context other : Context) (names : Names) (rows : List (Context × Names)) :
    (setRow context names rows).lookup other =
      if context = other then some names else rows.lookup other := by
  induction rows with
  | nil =>
    by_cases h : context = other
    · simp [setRow, h]
    · have hb : (other == context) = false := beq_eq_false_iff_ne.mpr (Ne.symm h)
      simp [setRow, List.lookup_cons, h, hb]
  | cons row rest ih =>
    obtain ⟨c, row⟩ := row
    by_cases ho : c = other
    · subst ho
      by_cases h : c = context
      · simp [setRow, h]
      · simp [setRow, h, Ne.symm h]
    · have hb : (other == c) = false := beq_eq_false_iff_ne.mpr (Ne.symm ho)
      by_cases h : c = context
      · subst h
        simp [setRow, List.lookup_cons, hb, ho]
      · simp [setRow, List.lookup_cons, hb, h, ih]

/-- A row that is put is found, and every other context keeps the row it had. -/
theorem get?_put (cache : Cache) (context other : Context) (names : Names) :
    (cache.put context names).get? other = if context = other then some names else cache.get? other :=
  lookup_setRow context other names cache.rows

end Cache

structure Discovered where
  found : Names
  cache : Option Cache
  called : Option Path
  fault : Option DiscoveryFault
  dropped : Nat

namespace Discovered

def nothing (cache : Option Cache) : Discovered :=
  ⟨[], cache, none, none, 0⟩

def events (d : Discovered) : List Event :=
  Event.ofDropped d.dropped

end Discovered

/-- Candidates for a context of a source with an owner. An index without usable rules offers none and the
cache is left alone. `earlier` are the paths the source's hook was called with before. -/
def Source.discover (source : Source) (owner : Owner) (earlier : List Path) (context : Context)
    (cache : Option Cache) : Discovered :=
  if !source.index.isWellFormed then .nothing cache
  else match cache with
    | none =>
      let exploration := source.explore earlier context
      match exploration.found with
      | .ok names => ⟨names, none, exploration.called, none, 0⟩
      | .error fault => ⟨[], none, exploration.called, some fault, 0⟩
    | some cache =>
      let bound := cache.bind owner
      let dropped := cache.dropCount owner
      match bound.get? context with
      | some names => ⟨names, some bound, none, none, dropped⟩
      | none =>
        let exploration := source.explore earlier context
        match exploration.found with
        | .ok names => ⟨names, some (bound.put context names), exploration.called, none, dropped⟩
        | .error fault => ⟨[], some bound, exploration.called, some fault, dropped⟩

/-- Candidates for a context of a subject. Without a context, or without a source, there are none and the
cache is left alone. -/
def discover (subject : Subject) (earlier : List Path) (context : Option Context)
    (cache : Option Cache) : Except IndexFault Discovered :=
  match context with
  | none => .ok (.nothing cache)
  | some context =>
    subject.source.map fun
      | some source => source.discover subject.owner earlier context cache
      | none => .nothing cache

end QueryHints
