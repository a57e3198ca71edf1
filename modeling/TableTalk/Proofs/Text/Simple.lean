import TableTalk.Proofs.Text.Fields
import TableTalk.Proofs.Text.Words
import TableTalk.Sql.Clause

namespace TableTalk

namespace Text

def Simple (text : List Char) : Prop :=
  ∀ c ∈ text, 0 < c.toNat ∧ c.toNat < 128

instance (text : List Char) : Decidable (Simple text) :=
  List.decidableBAll _ text

namespace Simple

variable {text : List Char}

theorem ascii (simple : Simple text) : ∀ c ∈ text, c.toNat < 128 :=
  fun c member => (simple c member).2

theorem of_subset {part : List Char} (simple : Simple text) (subset : ∀ c ∈ part, c ∈ text) : Simple part :=
  fun c member => simple c (subset c member)

theorem uncased (simple : Simple text) : Simple (uncased text) := by
  refine List.forall_mem_map.mpr fun c member => ?_
  have small := ascii_all (P := fun c => 0 < c.toNat → 0 < c.toLower.toNat ∧ c.toLower.toNat < 128) (by decide)
    (simple c member).2
  exact small (simple c member).1

theorem lower (simple : Simple text) : Simple (lower (String.ofList text)).toList := by
  rw [lower_ascii simple.ascii, String.toList_ofList]
  exact simple.uncased

theorem folded (simple : Simple text) : text.map lowerLetter = Text.uncased text :=
  List.map_congr_left fun c member => if_pos (simple.ascii c member)

theorem withoutNul {s : String} (simple : Simple s.toList) : Sql.withoutNul s = s.toList :=
  List.filter_eq_self.mpr fun c member => bne_iff_ne.mpr (Nat.ne_of_gt (simple c member).1)

theorem alphanum (letters : ∀ c ∈ text, c.isAlphanum = true) : Simple text := by
  intro c member
  obtain ⟨low, high⟩ := alphanum_bounds (letters c member)
  exact ⟨by omega, high⟩

end Simple

theorem simple_word {text word : String} (member : word ∈ wordsOf text) : Simple word.toList := by
  obtain ⟨run, inside, rfl⟩ := List.mem_map.mp member
  rw [String.toList_ofList]
  exact .alphanum (runs_chars inside).2.1

theorem mem_joined {c : Char} {words : List (List Char)} (member : c ∈ [' '].intercalate words) :
    c = ' ' ∨ ∃ word ∈ words, c ∈ word := by
  induction words with
  | nil => cases member
  | cons word rest ih =>
    cases rest with
    | nil =>
      rw [List.intercalate_singleton] at member
      exact Or.inr ⟨word, List.mem_cons_self, member⟩
    | cons other rest =>
      rw [List.intercalate_cons_cons, List.mem_append, List.mem_append, List.mem_singleton] at member
      rcases member with (here | space) | there
      · exact Or.inr ⟨word, List.mem_cons_self, here⟩
      · exact Or.inl space
      · obtain space | ⟨inside, among, found⟩ := ih there
        · exact Or.inl space
        · exact Or.inr ⟨inside, List.mem_cons_of_mem _ among, found⟩

theorem word_in_joined {word : List Char} {words : List (List Char)} (member : word ∈ words) :
    word <:+: [' '].intercalate words := by
  induction words with
  | nil => cases member
  | cons first rest ih =>
    cases rest with
    | nil =>
      cases List.mem_singleton.mp member
      simp only [List.intercalate_singleton, List.infix_rfl]
    | cons other rest =>
      rw [List.intercalate_cons_cons]
      rcases List.mem_cons.mp member with rfl | later
      · rw [List.append_assoc]
        exact (List.prefix_append _ _).isInfix
      · exact (ih later).trans (List.suffix_append _ _).isInfix

theorem toList_unwords (words : List String) : (unwords words).toList = [' '].intercalate (words.map String.toList) :=
  String.toList_intercalate

theorem simple_unwords {words : List String} (simple : ∀ word ∈ words, Simple word.toList) :
    Simple (unwords words).toList := by
  rw [toList_unwords]
  intro c member
  rcases mem_joined member with rfl | ⟨_, among, inside⟩
  · decide
  · obtain ⟨word, listed, rfl⟩ := List.mem_map.mp among
    exact simple word listed c inside

theorem simple_collapse {text : String} (simple : Simple text.toList) : Simple (collapse text).toList := by
  refine simple_unwords fun word member => ?_
  obtain ⟨field, among, rfl⟩ := List.mem_map.mp member
  obtain ⟨run, inside, rfl⟩ := List.mem_map.mp among
  rw [String.toList_ofList]
  refine simple.of_subset fun c here => ?_
  rw [← (runs_chars inside).1] at here
  exact List.mem_of_mem_drop (List.mem_of_mem_take here)

theorem lower_in_unwords {words : List String} (simple : ∀ word ∈ words, Simple word.toList) {word : String}
    (member : word ∈ words) {part : String} (plain : Simple part.toList)
    (inside : part.toList.map lowerLetter <:+: word.toList.map lowerLetter) :
    (lower part).toList <:+: (lower (unwords words)).toList := by
  have line := simple_unwords simple
  rw [plain.folded, (simple word member).folded] at inside
  have placed : word.toList <:+: (unwords words).toList := by
    rw [toList_unwords]
    exact word_in_joined (List.mem_map_of_mem member)
  rw [← String.ofList_toList (s := part), ← String.ofList_toList (s := unwords words), lower_ascii plain.ascii,
    lower_ascii line.ascii, String.toList_ofList, String.toList_ofList]
  exact inside.trans (placed.map Char.toLower)

end Text

end TableTalk
