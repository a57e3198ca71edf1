namespace TableTalk.Assoc

variable {α β : Type} [DecidableEq α]

def get? (key : α) : List (α × β) → Option β
  | [] => none
  | (k, v) :: rest => if k = key then some v else get? key rest

def has (key : α) (entries : List (α × β)) : Bool :=
  (get? key entries).isSome

def put (key : α) (value : β) : List (α × β) → List (α × β)
  | [] => [(key, value)]
  | (k, v) :: rest => if k = key then (key, value) :: rest else (k, v) :: put key value rest

def putNew (key : α) (value : β) (entries : List (α × β)) : List (α × β) :=
  if has key entries then entries else entries ++ [(key, value)]

/-- Collects pairs; a later value of a key replaces the earlier one in its place. -/
def ofList (pairs : List (α × β)) : List (α × β) :=
  pairs.foldl (fun entries pair => put pair.1 pair.2 entries) []

def keys (entries : List (α × β)) : List α :=
  entries.map Prod.fst

def addTo (key : α) (value : β) : List (α × List β) → List (α × List β)
  | [] => [(key, [value])]
  | (k, vs) :: rest => if k = key then (k, vs ++ [value]) :: rest else (k, vs) :: addTo key value rest

/-- Sorts values into groups by a key; groups appear in the order of their first member. -/
def groupBy (key : β → α) (values : List β) : List (α × List β) :=
  values.foldl (fun groups value => addTo (key value) value groups) []

def distinct : List α → List α
  | [] => []
  | a :: rest => a :: (distinct rest).filter fun b => decide (b ≠ a)

def firsts (same : β → β → Bool) (values : List β) : List β :=
  values.foldl (fun kept value => if kept.any (same value) then kept else kept ++ [value]) []

end TableTalk.Assoc
