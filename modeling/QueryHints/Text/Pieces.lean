namespace QueryHints.Text

def piecesFrom {α : Type} (separates : α → Bool) (piece : List α) : List α → List (List α)
  | [] => [piece.reverse]
  | a :: rest =>
    if separates a then piece.reverse :: piecesFrom separates [] rest
    else piecesFrom separates (a :: piece) rest

def piecesAt {α : Type} (separates : α → Bool) (all : List α) : List (List α) :=
  piecesFrom separates [] all

def pieces (separator : Char) (cs : List Char) : List (List Char) :=
  piecesAt (· == separator) cs

end QueryHints.Text
