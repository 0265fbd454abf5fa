import QueryHints.Text.Pieces

namespace QueryHints.Files

inductive Entry
  | missing
  | directory
  | file (octets : List UInt8)
  deriving Repr, DecidableEq, Inhabited

abbrev Lookup := String → Entry

structure Folder where
  files : List (String × List UInt8)

def steps (path : String) : List (List Char) :=
  Text.pieces '/' path.toList

def isIdle (step : List Char) : Bool :=
  step = [] || step = ['.']

namespace Folder

def under (folder : Folder) (names : List (List Char)) : Entry :=
  match folder.files.find? fun (name, _) => (steps name).filter (!isIdle ·) == names with
  | some (_, octets) => .file octets
  | none =>
    if folder.files.any fun (name, _) => names.isPrefixOf ((steps name).filter (!isIdle ·)) then
      .directory
    else .missing

def walk (folder : Folder) (above : Nat) (place : List (List Char)) : List (List Char) → Entry
  | [] => if above = 0 && !place.isEmpty then folder.under place else .directory
  | step :: rest =>
    match (if above = 0 && !place.isEmpty then folder.under place else .directory) with
    | .directory =>
      if isIdle step then folder.walk above place rest
      else if step = ['.', '.'] then
        if place.isEmpty then folder.walk (above + 1) [] rest
        else folder.walk above place.dropLast rest
      else if above = 0 then folder.walk above (place ++ [step]) rest
      else .missing
    | _ => .missing

def lookup (folder : Folder) : Lookup := fun path =>
  if path.isEmpty || path.toList.contains (Char.ofNat 0) then .missing
  else if path.toList.head? = some '/' then
    if (steps path).all fun step => isIdle step || step = ['.', '.'] then .directory else .missing
  else folder.walk 0 [] (steps path)

end Folder

end QueryHints.Files
