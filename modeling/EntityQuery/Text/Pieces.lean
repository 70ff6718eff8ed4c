/-!
# Pieces of a text

Cuts a text at every occurrence of a character, and puts pieces together again.
-/

namespace EntityQuery.Text

def piecesOf (separator : Char) : List Char → List (List Char)
  | [] => [[]]
  | c :: rest =>
      if c = separator then [] :: piecesOf separator rest
      else
        match piecesOf separator rest with
        | [] => [[c]]
        | piece :: pieces => (c :: piece) :: pieces

def pieces (separator : Char) (text : String) : List String :=
  (piecesOf separator text.toList).map String.ofList

end EntityQuery.Text
