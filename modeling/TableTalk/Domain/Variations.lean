import TableTalk.Text.Token
import TableTalk.Text.Blank
import TableTalk.Text.Substring
import TableTalk.Assoc

namespace TableTalk

structure PrefixLengths where
  least : Int := 3
  most : Int := 5
deriving Repr, DecidableEq

/-- The forms of a name. A form that is a whole one is never counted among the beginnings. -/
structure Variations where
  whole : List String
  beginnings : List String
deriving Repr, DecidableEq

namespace Variations

def normalized (name : String) : String :=
  Text.collapse (Text.lower name)

def joined (name : String) : String :=
  String.ofList (name.toList.filter (· != ' '))

/-- The lengths of the beginnings of a word: those asked for that are shorter than the word. Lengths
below zero leave characters off at the end of the word. -/
def lengthsFor (lengths : PrefixLengths) (word : String) : List Int :=
  let size : Int := word.length
  let first := max lengths.least (-size)
  let last := min lengths.most (size - 1)
  (List.range (last - first + 1).toNat).map fun n : Nat => first + n

def beginningsOf (lengths : PrefixLengths) (word : String) : List String :=
  (lengthsFor lengths word).map (Text.front word)

def of (lengths : PrefixLengths) (name : String) : Variations :=
  let lowered := normalized name
  let words := Text.wordsOf lowered
  let forms := [lowered, joined lowered] ++ words.filter fun word => 2 ≤ word.length
  let beginnings := words.flatMap (beginningsOf lengths)
  { whole := Assoc.distinct (forms.filter fun form => !form.isEmpty)
    beginnings := Assoc.distinct (beginnings.filter fun word => !forms.contains word) }

def all (v : Variations) : List String :=
  v.whole ++ v.beginnings

end Variations

end TableTalk
