import TableTalk.Text.Token
import TableTalk.Assoc

namespace TableTalk

structure PhraseTree (α : Type) where
  meaning : Option α := none
  children : List (String × PhraseTree α) := []

/-- A collection of phrases. `size` counts the insertions that were accepted. -/
structure Phrasebook (α : Type) where
  tree : PhraseTree α := {}
  size : Nat := 0

structure Hit (α : Type) where
  first : Nat
  last : Nat
  start : Nat
  stop : Nat
  meaning : α
deriving Repr, DecidableEq

namespace PhraseTree

variable {α : Type}

def child? (tree : PhraseTree α) (word : String) : Option (PhraseTree α) :=
  Assoc.get? word tree.children

def get? (tree : PhraseTree α) : List String → Option α
  | [] => tree.meaning
  | word :: rest => (tree.child? word).bind fun next => next.get? rest

/-- Leads words on from a place, through new places where there are none, and gives them a meaning if they
have none. -/
def give (tree : PhraseTree α) (meaning : Option α) : List String → PhraseTree α
  | [] => { tree with meaning := tree.meaning.or meaning }
  | word :: rest =>
    let next := (tree.child? word).getD {}
    { tree with children := Assoc.put word (next.give meaning rest) tree.children }

/-- The occurrences of phrases that the tokens from a place on spell, for a walk that set out at the token
`first` and is at `last` now. It ends at the first token that leads nowhere. -/
def hitsAlong (tree : PhraseTree α) (first start last : Nat) : List Token → List (Hit α)
  | [] => []
  | token :: rest =>
    match tree.child? token.text with
    | none => []
    | some next =>
      let later := next.hitsAlong first start (last + 1) rest
      match next.meaning with
      | some meaning => ⟨first, last, start, token.stop, meaning⟩ :: later
      | none => later

end PhraseTree

namespace Phrasebook

variable {α : Type}

def get? (book : Phrasebook α) (words : List String) : Option α :=
  book.tree.get? words

/-- Inserts a phrase and says whether it was accepted. A phrase without words is refused, and so is one
that stands for something already; a phrase that is accepted without a meaning can be given one later. -/
def insert (book : Phrasebook α) (words : List String) (meaning : Option α) : Phrasebook α × Bool :=
  let lowered := words.map Text.lower
  if lowered.isEmpty || (book.get? lowered).isSome then (book, false)
  else ({ tree := book.tree.give meaning lowered, size := book.size + 1 }, true)

def ofList (phrases : List (List String × α)) : Phrasebook α :=
  phrases.foldl (fun book phrase => (book.insert phrase.1 (some phrase.2)).1) {}

def hitsAtHead (book : Phrasebook α) (index : Nat) (tokens : List Token) : List (Hit α) :=
  match tokens with
  | [] => []
  | head :: _ => book.tree.hitsAlong index head.start index tokens

def hitsFrom (book : Phrasebook α) (index : Nat) : List Token → List (Hit α)
  | [] => []
  | token :: rest => book.hitsAtHead index (token :: rest) ++ hitsFrom book (index + 1) rest

def hits (book : Phrasebook α) (tokens : List Token) : List (Hit α) :=
  book.hitsFrom 0 tokens

end Phrasebook

namespace Hit

variable {α : Type}

/-- Whether an occurrence is considered no later than another: longer ones come first, and of equally
long ones the earlier. -/
def precedes (a b : Hit α) : Bool :=
  let lengthA := a.stop - a.start
  let lengthB := b.stop - b.start
  lengthB < lengthA || (lengthA == lengthB && a.start ≤ b.start)

def longestFirst (hits : List (Hit α)) : List (Hit α) :=
  hits.mergeSort precedes

end Hit

end TableTalk
