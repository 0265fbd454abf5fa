import QueryHints.Web.Host.Direction
import QueryHints.Web.Host.Punycode
import QueryHints.Text.Fold
import QueryHints.Text.Normal
import QueryHints.Text.Pieces
import QueryHints.Text.Quoted

namespace QueryHints.Web.Host

open QueryHints.Text (Span Run)

inductive LabelFault
  | length
  | lastLength
  | letter (c : Letter)
  | mixedDirections
  | openDirection
  | marked
  | punycode (fault : Punycode.Fault)
  | unfaithful (sent again : Text)
  deriving Repr, DecidableEq

def LabelFault.message : LabelFault → String
  | .length => "label empty or too long"
  | .lastLength => "label too long"
  | .letter c => "Invalid character " ++ Text.quoted [c]
  | .mixedDirections => "Violation of BIDI requirement 2"
  | .openDirection => "Violation of BIDI requirement 3"
  | .marked => "Label starts with ACE prefix"
  | .punycode fault =>
    "decoding with 'punycode' codec failed (UnicodeError: " ++ fault.message ++ ")"
  | .unfaithful sent again =>
    "('IDNA does not round-trip', b" ++ Text.quoted sent ++ ", b" ++ Text.quoted again ++ ")"

def silent : List Span := [
  ⟨0xad, 0xad⟩, ⟨0x34f, 0x34f⟩, ⟨0x1806, 0x1806⟩, ⟨0x180b, 0x180d⟩, ⟨0x200b, 0x200d⟩,
  ⟨0x2060, 0x2060⟩, ⟨0xfe00, 0xfe0f⟩, ⟨0xfeff, 0xfeff⟩]

def prohibited : List Span := [
  ⟨0x80, 0xa0⟩, ⟨0x340, 0x341⟩, ⟨0x6dd, 0x6dd⟩, ⟨0x70f, 0x70f⟩, ⟨0x1680, 0x1680⟩, ⟨0x180e, 0x180e⟩,
  ⟨0x2000, 0x200f⟩, ⟨0x2028, 0x202f⟩, ⟨0x205f, 0x2063⟩, ⟨0x206a, 0x206f⟩, ⟨0x2ff0, 0x2ffb⟩,
  ⟨0x3000, 0x3000⟩, ⟨0xd800, 0xf8ff⟩, ⟨0xfdd0, 0xfdef⟩, ⟨0xfeff, 0xfeff⟩, ⟨0xfff9, 0xffff⟩,
  ⟨0x1d173, 0x1d17a⟩, ⟨0x1fffe, 0x1ffff⟩, ⟨0x2fffe, 0x2ffff⟩, ⟨0x3fffe, 0x3ffff⟩,
  ⟨0x4fffe, 0x4ffff⟩, ⟨0x5fffe, 0x5ffff⟩, ⟨0x6fffe, 0x6ffff⟩, ⟨0x7fffe, 0x7ffff⟩,
  ⟨0x8fffe, 0x8ffff⟩, ⟨0x9fffe, 0x9ffff⟩, ⟨0xafffe, 0xaffff⟩, ⟨0xbfffe, 0xbffff⟩,
  ⟨0xcfffe, 0xcffff⟩, ⟨0xdfffe, 0xdffff⟩, ⟨0xe0001, 0xe0001⟩, ⟨0xe0020, 0xe007f⟩,
  ⟨0xefffe, 0x10ffff⟩]

def keptSmall : List Span := [
  ⟨0x13f8, 0x13fd⟩, ⟨0x1c80, 0x1c88⟩, ⟨0xab70, 0xabbf⟩]

def madeSmall : List Run := [
  ⟨0x13a0, 0x13ef, 1, 38864⟩, ⟨0x13f0, 0x13f5, 1, 8⟩]

def foldLetter (c : Letter) : Text :=
  if Span.covers keptSmall c.code then [c]
  else if Run.target madeSmall c.code ≠ c.code then [Letter.ofCode (Run.target madeSmall c.code)]
  else Text.foldLetter c

def folded (c : Letter) : Text :=
  (Text.normal (foldLetter c)).flatMap foldLetter

def isLeftward (c : Letter) : Bool := Span.covers leftward c.code

def isRightward (c : Letter) : Bool := Span.covers rightward c.code

/-- A label with letters that are written to the left has none that are written to the right, and starts
and ends with one of the former. -/
def checkDirection (label : Text) : Except LabelFault Text :=
  if !label.any isLeftward then .ok label
  else if label.any isRightward then .error .mixedDirections
  else if label.head?.any isLeftward && label.getLast?.any isLeftward then .ok label
  else .error .openDirection

def prepare (label : Text) : Except LabelFault Text :=
  let letters := Text.normal ((label.filter fun c => !Span.covers silent c.code).flatMap folded)
  match letters.find? fun c => Span.covers prohibited c.code with
  | some c => .error (.letter c)
  | none => checkDirection letters

def isAscii (text : Text) : Bool :=
  text.all fun c => c.code < 0x80

def sized (label : Text) : Except LabelFault Text :=
  if label.isEmpty || 64 ≤ label.length then .error .length else .ok label

def mark : Text := "xn--"

def sentLabel (label : Text) : Except LabelFault Text :=
  if isAscii label then sized label
  else match prepare label with
    | .error fault => .error fault
    | .ok prepared =>
      if isAscii prepared then sized prepared
      else if mark.isPrefixOf prepared then .error .marked
      else sized (mark ++ Punycode.encode prepared)

def asciiLower (text : Text) : Text :=
  text.map fun c => if 0x41 ≤ c.code && c.code ≤ 0x5A then Letter.ofCode (c.code + 32) else c

def shownLabel (label : Text) : Except LabelFault Text :=
  if !mark.isPrefixOf label then .ok label
  else match Punycode.decode (label.drop mark.length) with
    | .error fault => .error (.punycode fault)
    | .ok shown =>
      match sentLabel shown with
      | .error fault => .error fault
      | .ok again =>
        if asciiLower label = again then .ok shown else .error (.unfaithful label again)

def isPoint (c : Letter) : Bool :=
  c = '.' || c = '\u3002' || c = '\uFF0E' || c = '\uFF61'

def joinLabels (labels : List Text) : Text :=
  List.intercalate (Text.of ".") labels

def eachLabel (f : Text → Except LabelFault Text) : List Text → Except LabelFault (List Text)
  | [] => .ok []
  | label :: rest => do
    let first ← f label
    let others ← eachLabel f rest
    return first :: others

def checkLengths (labels : List Text) : Except LabelFault Unit :=
  if labels.dropLast.any fun label => label.isEmpty || 64 ≤ label.length then .error .length
  else if labels.getLast?.any fun label => 64 ≤ label.length then .error .lastLength
  else .ok ()

def sentName (name : Text) : Except LabelFault Text :=
  if isAscii name then
    (checkLengths (Text.piecesAt (· == Letter.ofChar '.') name)).map fun _ => name
  else
    let labels := Text.piecesAt isPoint name
    let named := if labels.getLast?.any List.isEmpty then labels.dropLast else labels
    (eachLabel sentLabel named).map fun sent =>
      joinLabels sent ++ (if named.length < labels.length then Text.of "." else [])

def shownName (name : Text) : Except LabelFault Text :=
  (eachLabel shownLabel (Text.piecesAt (· == Letter.ofChar '.') name)).map joinLabels

end QueryHints.Web.Host
