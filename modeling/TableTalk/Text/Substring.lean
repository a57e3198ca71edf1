namespace TableTalk.Text

def occursIn (needle : List Char) : List Char → Bool
  | [] => needle.isEmpty
  | c :: rest => needle.isPrefixOf (c :: rest) || occursIn needle rest

def contains (text needle : String) : Bool :=
  occursIn needle.toList text.toList

def startsWith (text start : String) : Bool :=
  start.toList.isPrefixOf text.toList

def replaceFirst (mark : Char) (replacement : List Char) : List Char → List Char
  | [] => []
  | c :: rest => if c = mark then replacement ++ rest else c :: replaceFirst mark replacement rest

def replaceEach (mark : Char) (replacement : List Char) (text : List Char) : List Char :=
  text.flatMap fun c => if c = mark then replacement else [c]

def slice (text : List Char) (start stop : Nat) : String :=
  String.ofList ((text.drop start).take (stop - start))

/-- How many items the first `n` of `count` are; a negative `n` counts from the end. -/
def frontCount (count : Nat) : Int → Nat
  | .ofNat n => n
  | .negSucc n => count - (n + 1)

/-- The first `n` characters of a text, or all but the last ones if `n` is negative. -/
def front (text : String) (n : Int) : String :=
  String.ofList (text.toList.take (frontCount text.length n))

end TableTalk.Text
