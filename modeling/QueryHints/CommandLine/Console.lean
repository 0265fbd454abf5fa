import QueryHints.Text.Letter
import QueryHints.Text.Quoted

namespace QueryHints.CommandLine

structure Console where
  columns : Nat
  codec : String
  reason : String
  takes : Letter → Bool
  takesAscii : ∀ c : Letter, c.code < 128 → takes c = true

/-- A letter that cannot be encoded, where it stands, and how many such letters there are one after the
other. -/
structure PrintFault where
  codec : String
  first : Letter
  position : Nat
  count : Nat
  reason : String
  deriving Repr, DecidableEq

def numberedLetter (c : Letter) : String :=
  if c.code < 0x100 then "\\x" ++ String.ofList (Text.hexDigits 2 c.code)
  else if c.code < 0x10000 then "\\u" ++ String.ofList (Text.hexDigits 4 c.code)
  else "\\U" ++ String.ofList (Text.hexDigits 8 c.code)

def PrintFault.message (fault : PrintFault) : String :=
  let place :=
    if fault.count = 1 then
      "character '" ++ numberedLetter fault.first ++ "' in position " ++ toString fault.position
    else
      "characters in position " ++ toString fault.position ++ "-"
        ++ toString (fault.position + fault.count - 1)
  "'" ++ fault.codec ++ "' codec can't encode " ++ place ++ ": " ++ fault.reason

namespace Console

def fault? (console : Console) (s : Text) : Option PrintFault :=
  match s.dropWhile console.takes with
  | [] => none
  | c :: rest =>
    some {
      codec := console.codec
      first := c
      position := (s.takeWhile console.takes).length
      count := (rest.takeWhile fun d => !console.takes d).length + 1
      reason := console.reason }

def print (console : Console) (printed : Text) : List Text → Except (Text × PrintFault) Text
  | [] => .ok printed
  | s :: rest =>
    match console.fault? s with
    | some fault => .error (printed, fault)
    | none => print console (printed ++ s) rest

def utf8 (columns : Nat) : Console where
  columns
  codec := "utf-8"
  reason := "surrogates not allowed"
  takes c := !c.isSurrogate
  takesAscii c h := by
    simp only [Letter.isSurrogate, Bool.not_eq_true', Bool.and_eq_false_imp, decide_eq_true_eq,
      decide_eq_false_iff_not]
    omega

def total (columns : Nat) : Console where
  columns
  codec := ""
  reason := ""
  takes _ := true
  takesAscii _ _ := rfl

end Console

end QueryHints.CommandLine
