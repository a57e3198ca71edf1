namespace TableTalk.Text

structure Run where
  start : Nat
  chars : List Char
deriving Repr, DecidableEq

def Run.stop (run : Run) : Nat :=
  run.start + run.chars.length

def Run.cons (offset : Nat) (c : Char) : List Run → List Run
  | [] => [⟨offset, [c]⟩]
  | run :: later =>
    if run.start = offset + 1 then ⟨offset, c :: run.chars⟩ :: later
    else ⟨offset, [c]⟩ :: run :: later

/-- The maximal runs of characters that satisfy `p`, in order; `offset` is that of the first
character. -/
def runsFrom (p : Char → Bool) (offset : Nat) : List Char → List Run
  | [] => []
  | c :: rest =>
    let later := runsFrom p (offset + 1) rest
    if p c then Run.cons offset c later else later

def runs (p : Char → Bool) (text : List Char) : List Run :=
  runsFrom p 0 text

end TableTalk.Text
