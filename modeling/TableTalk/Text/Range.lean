namespace TableTalk.Text

def inRanges : List (Nat × Nat) → Char → Bool
  | [], _ => false
  | (low, high) :: rest, c => low ≤ c.toNat && (c.toNat ≤ high || inRanges rest c)

end TableTalk.Text
