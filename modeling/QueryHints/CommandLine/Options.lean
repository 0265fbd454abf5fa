import QueryHints.Number.Numeral
import QueryHints.Text.Quoted

/-!
Options of a command line. A long option may be cut short as long as one option is meant, and may carry
its value behind an equals sign; a short one may carry it directly. Without such a value the next argument
is taken, unless it looks like an option itself; negative numbers do not. Everything behind two dashes on
their own is no option. All arguments are classified before any is taken.
-/

namespace QueryHints.CommandLine

inductive Takes
  | nothing
  | help
  | text
  | whole
  deriving Repr, DecidableEq

structure Opt where
  names : List String
  takes : Takes
  required : Bool := false
  help : String := ""
  deriving Repr, DecidableEq

namespace Opt

def title (opt : Opt) : String :=
  String.intercalate "/" opt.names

def key (opt : Opt) : String :=
  opt.names.getLastD ""

def takesValue (opt : Opt) : Bool :=
  opt.takes = .text || opt.takes = .whole

end Opt

inductive OptionFault
  | ambiguous (argument : String) (names : List String)
  | valueExpected (opt : Opt)
  | valueIgnored (opt : Opt) (value : String)
  | notWhole (opt : Opt) (value : String)
  | missing (opts : List Opt)
  | unrecognized (arguments : List String)
  deriving Repr, DecidableEq

def OptionFault.message : OptionFault → String
  | .ambiguous argument names =>
    "ambiguous option: " ++ argument ++ " could match " ++ String.intercalate ", " names
  | .valueExpected opt => "argument " ++ opt.title ++ ": expected one argument"
  | .valueIgnored opt value =>
    "argument " ++ opt.title ++ ": ignored explicit argument " ++ (Text.of value).quoted
  | .notWhole opt value => "argument " ++ opt.title ++ ": invalid int value: " ++ (Text.of value).quoted
  | .missing opts =>
    "the following arguments are required: " ++ String.intercalate ", " (opts.map Opt.title)
  | .unrecognized arguments => "unrecognized arguments: " ++ String.intercalate " " arguments

inductive Reading
  | plain
  | divider
  | unknown
  | known (opt : Opt) (short : Bool) (attached : Option (List Char))
  deriving Repr, DecidableEq

def allNames (opts : List Opt) : List (String × Opt) :=
  opts.flatMap fun opt => opt.names.map fun name => (name, opt)

def named? (opts : List Opt) (name : List Char) : Option Opt :=
  ((allNames opts).find? fun (n, _) => n.toList == name).map Prod.snd

def isShort : List Char → Bool
  | '-' :: '-' :: _ => false
  | _ => true

def isNegativeNumber (argument : List Char) : Bool :=
  let isDigit (c : Char) : Bool := (Text.digit? c).isSome
  let numeral := match argument.getLast? with
    | some '\n' => argument.dropLast
    | _ => argument
  match numeral with
  | '-' :: body =>
    match body.dropWhile isDigit with
    | [] => !body.isEmpty
    | '.' :: fraction => !fraction.isEmpty && fraction.all isDigit
    | _ => false
  | _ => false

def splitValue (argument : List Char) : List Char × Option (List Char) :=
  match argument.dropWhile (· != '=') with
  | _ :: value => (argument.takeWhile (· != '='), some value)
  | [] => (argument, none)

def meanings (opts : List Opt) (argument : List Char) : List (String × Opt × Option (List Char)) :=
  if isShort argument then
    (allNames opts).filterMap fun (name, opt) =>
      if name.toList == argument.take 2 then some (name, opt, some (argument.drop 2))
      else if argument.isPrefixOf name.toList then some (name, opt, none)
      else none
  else
    let (stem, attached) := splitValue argument
    (allNames opts).filterMap fun (name, opt) =>
      if stem.isPrefixOf name.toList then some (name, opt, attached) else none

def classify (opts : List Opt) (argument : String) : Except OptionFault Reading :=
  match argument.toList with
  | '-' :: rest =>
    let cs := '-' :: rest
    match named? opts cs with
    | some opt => .ok (.known opt (isShort cs) none)
    | none =>
      if rest.isEmpty then .ok .plain
      else
        let (stem, attached) := splitValue cs
        match attached, named? opts stem with
        | some attached, some opt => .ok (.known opt (isShort stem) (some attached))
        | _, _ =>
          match meanings opts cs with
          | [(_, opt, attached)] => .ok (.known opt (isShort cs) attached)
          | [] =>
            if isNegativeNumber cs || cs.contains ' ' then .ok .plain else .ok .unknown
          | several => .error (.ambiguous argument (several.map fun (name, _, _) => name))
  | _ => .ok .plain

def classifyAll (opts : List Opt) : List String → Except OptionFault (List (String × Reading))
  | [] => .ok []
  | argument :: rest =>
    if argument = "--" then
      .ok ((argument, .divider) :: rest.map fun later => (later, .plain))
    else match classify opts argument with
      | .error fault => .error fault
      | .ok reading => (classifyAll opts rest).map ((argument, reading) :: ·)

abbrev Use := Opt × Option String

/-- The options in one argument: what they are used with, and whether the next argument was taken as a
value. -/
structure Uses where
  uses : List Use
  tookNext : Bool

def useAlone (next : Option String) (opt : Opt) : Except OptionFault Uses :=
  if opt.takesValue then
    match next with
    | some value => .ok ⟨[(opt, some value)], true⟩
    | none => .error (.valueExpected opt)
  else .ok ⟨[(opt, none)], false⟩

/-- Takes an option with an attached value. Behind a short option that takes none, the value is read as
further short options. -/
def useAttached (opts : List Opt) (next : Option String) (opt : Opt) (short : Bool)
    (value : List Char) : Except OptionFault Uses :=
  if opt.takesValue then .ok ⟨[(opt, some (String.ofList value))], false⟩
  else
    match value with
    | [] => .error (.valueIgnored opt "")
    | c :: more =>
      match (if short then named? opts ['-', c] else none) with
      | none => .error (.valueIgnored opt (String.ofList (c :: more)))
      | some bundled =>
        let rest := match more with
          | [] => useAlone next bundled
          | d :: later => useAttached opts next bundled true (d :: later)
        rest.map fun uses => { uses with uses := (opt, none) :: uses.uses }
termination_by value.length

inductive Value
  | given
  | unsaid
  | text (s : String)
  | whole (n : Int)
  deriving Repr, DecidableEq

def Value.ofText (opt : Opt) (s : String) : Except OptionFault Value :=
  if s = "--" then .ok .unsaid
  else if opt.takes = .whole then
    match Numeral.read s with
    | .ok n => .ok (.whole n)
    | .error _ => .error (.notWhole opt s)
  else .ok (.text s)

inductive Parsed
  | help
  | values (all : List (String × Value))
  deriving Repr, DecidableEq

/-- Records uses in order. Help ends the run at once, so nothing is recorded behind it. -/
def record (values : List (String × Value)) : List Use → Except OptionFault (Option (List (String × Value)))
  | [] => .ok (some values)
  | (opt, value) :: rest =>
    if opt.takes = .help then .ok none
    else match value with
      | none => record (values ++ [(opt.key, .given)]) rest
      | some s =>
        match Value.ofText opt s with
        | .ok v => record (values ++ [(opt.key, v)]) rest
        | .error fault => .error fault

structure Progress where
  values : List (String × Value)
  extras : List String

def nextPlain : List (String × Reading) → Option String
  | (argument, .plain) :: _ => some argument
  | _ => none

def take (opts : List Opt) (progress : Progress) :
    List (String × Reading) → Except OptionFault (Option Progress)
  | [] => .ok (some progress)
  | (_, .known opt short attached) :: rest =>
    let taken := match attached with
      | none => useAlone (nextPlain rest) opt
      | some a => useAttached opts (nextPlain rest) opt short a
    match taken with
    | .error fault => .error fault
    | .ok uses =>
      match record progress.values uses.uses with
      | .error fault => .error fault
      | .ok none => .ok none
      | .ok (some values) =>
        let progress : Progress := ⟨values, progress.extras⟩
        match uses.tookNext, rest with
        | true, _ :: later => take opts progress later
        | _, rest => take opts progress rest
  | (argument, _) :: rest =>
    take opts { progress with extras := progress.extras ++ [argument] } rest

/-- Reads a command line. Missing options are reported before arguments that nothing takes. -/
def parse (opts : List Opt) (arguments : List String) : Except OptionFault Parsed :=
  match classifyAll opts arguments with
  | .error fault => .error fault
  | .ok classified =>
    match take opts ⟨[], []⟩ classified with
    | .error fault => .error fault
    | .ok none => .ok .help
    | .ok (some progress) =>
      let missing := opts.filter fun opt =>
        opt.required && !progress.values.any fun (key, _) => key == opt.key
      if !missing.isEmpty then .error (.missing missing)
      else if !progress.extras.isEmpty then .error (.unrecognized progress.extras)
      else .ok (.values progress.values)

def last? (values : List (String × Value)) (key : String) : Option Value :=
  values.reverse.lookup key

inductive Given (α : Type)
  | absent
  | unsaid
  | value (a : α)
  deriving Repr, DecidableEq

def Given.orElse {α : Type} (default : α) : Given α → Option α
  | absent => some default
  | unsaid => none
  | value a => some a

def text (values : List (String × Value)) (key : String) : Given String :=
  match last? values key with
  | some (.text s) => .value s
  | some .unsaid => .unsaid
  | _ => .absent

def whole (values : List (String × Value)) (key : String) : Given Int :=
  match last? values key with
  | some (.whole n) => .value n
  | some .unsaid => .unsaid
  | _ => .absent

def isGiven (values : List (String × Value)) (key : String) : Bool :=
  (last? values key).isSome

end QueryHints.CommandLine
