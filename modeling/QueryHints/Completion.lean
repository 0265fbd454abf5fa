import QueryHints.Discovery.Cache
import QueryHints.Search.Rank

namespace QueryHints

structure Completion where
  candidates : List Text
  replaceFrom : Int
  replaceTo : Int
  deriving Repr, DecidableEq

def Completion.toJson (c : Completion) : Json :=
  .object [("candidates", .list (c.candidates.map .text)), ("replace_from", .int c.replaceFrom),
    ("replace_to", .int c.replaceTo)]

inductive CompletionFault
  | limitNotComparable (kind : Kind)
  | limitNotPositive (shown : String)
  | limitUnwritable
  | limitNotWhole
  | nameNotText (kind : Kind)
  | index (fault : IndexFault)
  deriving Repr, DecidableEq

def CompletionFault.message : CompletionFault → String
  | .limitNotComparable kind =>
    "'<' not supported between instances of '" ++ kind.name ++ "' and 'int'"
  | .limitNotPositive shown => "top_k must be a positive integer, got " ++ shown
  | .limitUnwritable => Numeral.unwritableMessage
  | .limitNotWhole => "slice indices must be integers or None or have an __index__ method"
  | .nameNotText kind => "can only concatenate str (not \"" ++ kind.name ++ "\") to str"
  | .index fault => fault.message

def CompletionFault.fault : CompletionFault → FaultClass
  | .limitNotPositive _ | .limitUnwritable => .value
  | .index fault => fault.fault
  | .limitNotComparable _ | .limitNotWhole | .nameNotText _ => .kind

/-- How many candidates an answer may have. A real number can be compared with one and so passes as a
limit, but it cannot cut a list. -/
inductive Limit
  | unlimited
  | atMost (count : Nat)
  | fractional
  deriving Repr, DecidableEq

namespace Limit

def ofInt (shown : String) (n : Int) : Except CompletionFault Limit :=
  if 1 ≤ n then .ok (.atMost n.toNat)
  else .error (if Numeral.isWritable n then .limitNotPositive shown else .limitUnwritable)

def ofJson (v : Json) : Except CompletionFault Limit :=
  match v with
  | .null => .ok .unlimited
  | .int n => ofInt v.literal n
  | .bool b => ofInt v.literal (if b then 1 else 0)
  | .real x => if x.lt (Binary64.ofInt 1) then .error (.limitNotPositive v.literal) else .ok .fractional
  | v => .error (.limitNotComparable v.kind)

def cut (words : List Text) : Limit → Except CompletionFault (List Text)
  | unlimited => .ok words
  | atMost count => .ok (words.take count)
  | fractional => .error .limitNotWhole

end Limit

/-- What is asked: a token, the part of it typed before the cursor, and where the cursor is, if not right
behind that part. -/
structure Query where
  token : Token
  fragment : Text
  cursor : Option Int

namespace Query

def cursorAt (q : Query) : Int :=
  q.cursor.getD (q.token.start + q.fragment.length)

/-- A bare trigger replaces nothing; otherwise the fragment goes, and the token up to its end. -/
def span (q : Query) : Int × Int :=
  if Search.isBare q.fragment then (q.cursorAt, q.cursorAt)
  else (q.cursorAt - q.fragment.length, q.token.stop)

def options (ignored found : Names) : Except CompletionFault (List Text) :=
  match (found.without ignored).find? fun name => name.text?.isNone with
  | some name => .error (.nameNotText name.toJson.kind)
  | none =>
    .ok ((((found.without ignored).filterMap Name.text?).map Key.text).mergeSort fun a b => a ≤ b)

def answer (q : Query) (limit : Limit) (ignored found : Names) :
    Except CompletionFault (Option Completion) :=
  if found.isEmpty then .ok none
  else match options ignored found with
    | .error fault => .error fault
    | .ok texts =>
      match Search.rank q.fragment texts with
      | .error _ => .ok none
      | .ok [] => .ok none
      | .ok ranked =>
        (limit.cut (ranked.map (·.text))).map fun words => some ⟨words, q.span.1, q.span.2⟩

end Query

structure Completed where
  result : Except CompletionFault (Option Completion)
  discovered : Discovered

/-- Completions of a query, at most `limit` of them. The limit is checked before anything else. -/
def complete (subject : Subject) (earlier : List Path) (query : Query) (limit : Json)
    (cache : Option Cache) : Completed :=
  match Limit.ofJson limit with
  | .error fault => ⟨.error fault, .nothing cache⟩
  | .ok limit =>
    match subject.source with
    | .error fault => ⟨.error (.index fault), .nothing cache⟩
    | .ok none => ⟨.ok none, .nothing cache⟩
    | .ok (some source) =>
      let discovered := match Context.ofToken? source.index query.token with
        | some context => source.discover subject.owner earlier context cache
        | none => .nothing cache
      ⟨query.answer limit source.index.ignored discovered.found, discovered⟩

end QueryHints
