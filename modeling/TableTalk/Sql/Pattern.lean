import TableTalk.Sql.Clause

namespace TableTalk.Sql

inductive Piece where
  | anything
  | anyOne
  | letter (c : Char)
deriving Repr, DecidableEq

namespace Piece

def ofPattern (escape : Option Char) : List Char → Option (List Piece)
  | [] => some []
  | [c] =>
    if some c = escape then none
    else if c = '%' then some [.anything]
    else if c = '_' then some [.anyOne]
    else some [.letter c]
  | c :: d :: rest =>
    if some c = escape then (ofPattern escape rest).map (.letter d :: ·)
    else
      let piece : Piece := if c = '%' then .anything else if c = '_' then .anyOne else .letter c
      (ofPattern escape (d :: rest)).map (piece :: ·)

def remainders : List Char → List (List Char)
  | [] => [[]]
  | c :: rest => (c :: rest) :: remainders rest

def fits : List Piece → List Char → Bool
  | [], text => text.isEmpty
  | .anything :: pieces, text => (remainders text).any (fits pieces)
  | .anyOne :: pieces, text => match text with
    | [] => false
    | _ :: rest => fits pieces rest
  | .letter c :: pieces, text => match text with
    | [] => false
    | d :: rest => c == d && fits pieces rest

end Piece

def isLike? (escape : Option Char) (text pattern : String) : Option Bool :=
  let fold (s : String) : List Char := s.toList.map Text.lowerLetter
  (Piece.ofPattern escape (fold pattern)).map fun pieces => Piece.fits pieces (fold text)

end TableTalk.Sql
