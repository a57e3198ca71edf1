import TableTalk.Phrase
import TableTalk.Proofs.Assoc

namespace TableTalk.PhraseTree

variable {α : Type}

theorem get?_empty (words : List String) : ({} : PhraseTree α).get? words = none := by
  cases words <;> rfl

theorem get?_cons (tree : PhraseTree α) (word : String) (rest : List String) :
    tree.get? (word :: rest) = ((tree.child? word).getD {}).get? rest := by
  rw [get?]
  cases tree.child? word with
  | none => exact (get?_empty rest).symm
  | some next => rfl

theorem child?_give (tree : PhraseTree α) (meaning : Option α) (word : String) (rest : List String) (other : String) :
    (tree.give meaning (word :: rest)).child? other =
      if other = word then some (((tree.child? word).getD {}).give meaning rest) else tree.child? other :=
  Assoc.get?_put word other _ tree.children

theorem get?_give (tree : PhraseTree α) (meaning : Option α) (words other : List String) :
    (tree.give meaning words).get? other = (tree.get? other).or (if words = other then meaning else none) := by
  induction words generalizing tree other with
  | nil =>
    cases other with
    | nil =>
      rw [if_pos rfl]
      rfl
    | cons word rest =>
      rw [if_neg nofun, Option.or_none]
      rfl
  | cons word rest ih =>
    cases other with
    | nil =>
      rw [if_neg nofun, Option.or_none]
      rfl
    | cons other rest' =>
      rw [get?_cons, child?_give, get?_cons]
      by_cases same : other = word
      · rw [if_pos same, Option.getD_some, ih, same]
        simp only [List.cons.injEq, true_and]
      · rw [if_neg same, if_neg fun both => same (List.cons.inj both).1.symm, Option.or_none]

structure Meets (tree : PhraseTree α) (first start last : Nat) (tokens : List Token) (n : Nat) (hit : Hit α) :
    Prop where
  first : hit.first = first
  last : hit.last = last + n
  start : hit.start = start
  stop : tokens[n]?.map Token.stop = some hit.stop
  meaning : tree.get? ((tokens.take (n + 1)).map Token.text) = some hit.meaning

section

variable {tree next : PhraseTree α} {first start last : Nat} {token : Token} {rest : List Token} {hit : Hit α}

theorem not_meets (none : tree.child? token.text = none) (n : Nat) :
    ¬ Meets tree first start last (token :: rest) n hit := by
  intro meets
  have meaning := meets.meaning
  rw [List.take_succ_cons, List.map_cons, get?, none] at meaning
  cases meaning

theorem get?_take_succ (leads : tree.child? token.text = some next) (n : Nat) :
    tree.get? (((token :: rest).take (n + 1)).map Token.text) = next.get? ((rest.take n).map Token.text) := by
  rw [List.take_succ_cons, List.map_cons, get?, leads, Option.bind_some]

theorem meets_zero (leads : tree.child? token.text = some next) :
    Meets tree first start last (token :: rest) 0 hit ↔
      next.meaning = some hit.meaning ∧ hit = ⟨first, last, start, token.stop, hit.meaning⟩ := by
  have here : tree.get? (((token :: rest).take (0 + 1)).map Token.text) = next.meaning := get?_take_succ leads 0
  constructor
  · rintro ⟨rfl, rfl, rfl, stop, meaning⟩
    have stops : token.stop = hit.stop := Option.some.inj stop
    rw [stops]
    exact ⟨here.symm.trans meaning, rfl⟩
  · rintro ⟨meaning, same⟩
    rw [same] at meaning ⊢
    exact ⟨rfl, rfl, rfl, rfl, here.trans meaning⟩

theorem meets_succ (leads : tree.child? token.text = some next) (n : Nat) :
    Meets tree first start last (token :: rest) (n + 1) hit ↔ Meets next first start (last + 1) rest n hit := by
  have place : last + (n + 1) = last + 1 + n := by omega
  have onward := @get?_take_succ α tree next token rest leads (n + 1)
  constructor
  · rintro ⟨same, last, start, stop, meaning⟩
    exact ⟨same, last.trans place, start, stop, onward.symm.trans meaning⟩
  · rintro ⟨same, last, start, stop, meaning⟩
    exact ⟨same, last.trans place.symm, start, stop, onward.trans meaning⟩

theorem mem_hitsAlong_cons (leads : tree.child? token.text = some next) :
    hit ∈ tree.hitsAlong first start last (token :: rest) ↔
      (next.meaning = some hit.meaning ∧ hit = ⟨first, last, start, token.stop, hit.meaning⟩) ∨
        hit ∈ next.hitsAlong first start (last + 1) rest := by
  rw [hitsAlong, leads]
  dsimp only
  cases next.meaning with
  | none => simp
  | some meaning =>
    rw [List.mem_cons]
    refine or_congr_left ⟨?_, ?_⟩
    · rintro rfl
      exact ⟨rfl, rfl⟩
    · rintro ⟨same, place⟩
      rw [place, Option.some.inj same]

end

theorem mem_hitsAlong {tree : PhraseTree α} {first start last : Nat} {tokens : List Token} {hit : Hit α} :
    hit ∈ tree.hitsAlong first start last tokens ↔ ∃ n, Meets tree first start last tokens n hit := by
  induction tokens generalizing tree last with
  | nil =>
    refine ⟨nofun, ?_⟩
    rintro ⟨_, _, _, _, stop, _⟩
    cases stop
  | cons token rest ih =>
    cases leads : tree.child? token.text with
    | none =>
      rw [hitsAlong, leads]
      exact ⟨nofun, fun ⟨n, meets⟩ => absurd meets (not_meets leads n)⟩
    | some next =>
      rw [mem_hitsAlong_cons leads, ih]
      refine Iff.trans ?_ Nat.or_exists_add_one
      exact or_congr (meets_zero leads).symm (exists_congr fun n => (meets_succ leads n).symm)

theorem hitsAlong_places (tree : PhraseTree α) (first start last : Nat) (tokens : List Token) :
    (tree.hitsAlong first start last tokens).Pairwise fun a b => a.first = b.first ∧ a.last < b.last := by
  induction tokens generalizing tree last with
  | nil => exact List.Pairwise.nil
  | cons token rest ih =>
    rw [hitsAlong]
    cases tree.child? token.text with
    | none => exact List.Pairwise.nil
    | some next =>
      dsimp only
      cases next.meaning with
      | none => exact ih next (last + 1)
      | some meaning =>
        refine List.pairwise_cons.mpr ⟨fun later member => ?_, ih next (last + 1)⟩
        obtain ⟨n, meets⟩ := mem_hitsAlong.mp member
        have place := meets.last
        refine ⟨meets.first.symm, ?_⟩
        dsimp only
        omega

end TableTalk.PhraseTree
