import QueryHints.Text.Letter

namespace QueryHints.Key

def marker : Letter := ':'

def separator : Letter := '/'

def placeholderSpace : Text := ">"

def ofText (text : Text) : Text :=
  match text with
  | c :: rest => if c = marker then rest else text
  | [] => text

def text (key : Text) : Text :=
  marker :: key

def space? (key : Text) : Option Text :=
  if key.contains separator then some (key.takeWhile (· != separator)) else none

def isPlaceholder (key : Text) : Bool :=
  space? key == some placeholderSpace

end QueryHints.Key
