import Mathlib.Logic.ExistsUnique
import TableTalk.Proofs.Sorting
import TableTalk.Proofs.Text.Words

namespace TableTalk

namespace Text

theorem runsFrom_apart (p : Char → Bool) (offset : Nat) (text : List Char) :
    (runsFrom p offset text).Pairwise fun a b => a.stop < b.start := by
  induction text generalizing offset with
  | nil => exact List.Pairwise.nil
  | cons c rest ih =>
    have later := ih (offset + 1)
    have laid := laid_runsFrom p (offset + 1) rest
    rw [runsFrom]
    split
    · cases found : runsFrom p (offset + 1) rest with
      | nil => exact List.pairwise_singleton _ _
      | cons first others =>
        rw [found] at later laid
        obtain ⟨behind, apart⟩ := List.pairwise_cons.mp later
        rw [Run.cons]
        split
        · -- the first run starts earlier and stops where it did
          refine List.pairwise_cons.mpr ⟨fun run member => ?_, apart⟩
          have gap := behind run member
          simp only [Run.stop, List.length_cons] at gap ⊢
          omega
        · refine List.pairwise_cons.mpr ⟨fun run member => ?_, later⟩
          have starts := laid.1
          have ordered := laid.start_le rfl run member
          simp only [Run.stop, List.length_singleton]
          omega
    · exact later

end Text

namespace Token

/-- A maximal run of ASCII letters and digits of a text: all of its characters are, those next to it are not, and its
text is theirs in lower case. -/
structure IsRun (text : List Char) (token : Token) : Prop where
  nonempty : token.start < token.stop
  letters : ∀ i, token.start ≤ i → i < token.stop → ∃ c, text[i]? = some c ∧ c.isAlphanum = true
  before : ∀ i c, i + 1 = token.start → text[i]? = some c → c.isAlphanum = false
  behind : ∀ c, text[token.stop]? = some c → c.isAlphanum = false
  lowered : Text.lower (Text.slice text token.start token.stop) = token.text

structure AreRuns (text : List Char) (tokens : List Token) : Prop where
  runs : ∀ token ∈ tokens, token.IsRun text
  apart : tokens.Pairwise fun a b => a.stop < b.start
  covers : ∀ i c, text[i]? = some c → c.isAlphanum = true →
    ∃! token, token ∈ tokens ∧ token.start ≤ i ∧ i < token.stop

section Found

variable {text : List Char} {token : Token}

theorem scan_apart (text : List Char) : (scan text).Pairwise fun a b => a.stop < b.start :=
  List.pairwise_map.mpr (Text.runsFrom_apart isTokenChar 0 text)

theorem scan_covers {i : Nat} {c : Char} (here : text[i]? = some c) (letter : c.isAlphanum = true) :
    ∃ token ∈ scan text, token.start ≤ i ∧ i < token.stop := by
  obtain ⟨run, member, inside⟩ := Text.runsFrom_covers 0 here letter
  rw [Nat.zero_add] at inside
  exact ⟨ofRun run, List.mem_map_of_mem member, inside⟩

theorem scan_eq_of_touches {other : Token} (member : token ∈ scan text) (another : other ∈ scan text)
    (low : other.start ≤ token.stop) (high : token.start ≤ other.stop) : other = token := by
  rcases Sorting.pairwise_total (scan_apart text) member another with behind | same | before
  · omega
  · exact same.symm
  · omega

theorem scan_before (member : token ∈ scan text) {i : Nat} {c : Char} (next : i + 1 = token.start)
    (here : text[i]? = some c) : c.isAlphanum = false := by
  rw [Bool.eq_false_iff]
  intro letter
  obtain ⟨other, another, low, high⟩ := scan_covers here letter
  have bounds := scan_bounds member
  have same := scan_eq_of_touches member another (by omega) (by omega)
  rw [same] at low
  omega

theorem scan_behind (member : token ∈ scan text) {c : Char} (here : text[token.stop]? = some c) :
    c.isAlphanum = false := by
  rw [Bool.eq_false_iff]
  intro letter
  obtain ⟨other, another, low, high⟩ := scan_covers here letter
  have bounds := scan_bounds member
  have same := scan_eq_of_touches member another low (by omega)
  rw [same] at high
  exact Nat.lt_irrefl _ high

theorem scan_lowered (member : token ∈ scan text) :
    Text.lower (Text.slice text token.start token.stop) = token.text := by
  obtain ⟨run, inside, rfl⟩ := List.mem_map.mp member
  obtain ⟨chars, letters, _⟩ := Text.runs_chars inside
  have slice : Text.slice text run.start run.stop = String.ofList run.chars := by
    rw [Text.slice, Text.Run.stop, Nat.add_sub_cancel_left, chars]
  show Text.lower (Text.slice text run.start run.stop) = String.ofList (Text.uncased run.chars)
  rw [slice, Text.lower_ascii fun c among => (Text.alphanum_bounds (letters c among)).2]

theorem areRuns_scan (text : List Char) : AreRuns text (scan text) where
  runs token member :=
    { nonempty := (scan_bounds member).1
      letters := fun _ low high => scan_getElem? member low high
      before := fun _ _ => scan_before member
      behind := fun _ => scan_behind member
      lowered := scan_lowered member }
  apart := scan_apart text
  covers i c here letter := by
    obtain ⟨token, member, low, high⟩ := scan_covers here letter
    refine ⟨token, ⟨member, low, high⟩, ?_⟩
    rintro other ⟨another, low', high'⟩
    exact scan_eq_of_touches member another (by omega) (by omega)

end Found

section Unique

variable {text : List Char} {a b : Token} {i : Nat}

theorem IsRun.start_le (runA : a.IsRun text) (runB : b.IsRun text) (highA : i < a.stop) (lowB : b.start ≤ i) :
    b.start ≤ a.start := by
  refine Nat.le_of_not_lt fun less => ?_
  -- the character in front of the later one would be in the earlier one
  obtain ⟨c, here, letter⟩ := runA.letters (b.start - 1) (by omega) (by omega)
  rw [runB.before _ c (by omega) here] at letter
  cases letter

theorem IsRun.stop_le (runA : a.IsRun text) (runB : b.IsRun text) (lowA : a.start ≤ i) (highB : i < b.stop) :
    a.stop ≤ b.stop := by
  refine Nat.le_of_not_lt fun less => ?_
  obtain ⟨c, here, letter⟩ := runA.letters b.stop (by omega) less
  rw [runB.behind c here] at letter
  cases letter

theorem IsRun.eq (runA : a.IsRun text) (runB : b.IsRun text) (lowA : a.start ≤ i) (highA : i < a.stop)
    (lowB : b.start ≤ i) (highB : i < b.stop) : a = b := by
  have starts : a.start = b.start :=
    Nat.le_antisymm (runB.start_le runA highB lowA) (runA.start_le runB highA lowB)
  have stops : a.stop = b.stop :=
    Nat.le_antisymm (runA.stop_le runB lowA highB) (runB.stop_le runA lowB highA)
  have texts : a.text = b.text := by rw [← runA.lowered, ← runB.lowered, starts, stops]
  obtain ⟨_, _, _⟩ := a
  obtain ⟨_, _, _⟩ := b
  cases starts
  cases stops
  cases texts
  rfl

variable {tokens others : List Token}

theorem AreRuns.mem (runs : AreRuns text tokens) (runs' : AreRuns text others) : a ∈ tokens → a ∈ others := by
  intro member
  have run := runs.runs a member
  obtain ⟨c, here, letter⟩ := run.letters a.start (Nat.le_refl _) run.nonempty
  obtain ⟨b, ⟨another, low, high⟩, _⟩ := runs'.covers a.start c here letter
  rw [run.eq (runs'.runs b another) (Nat.le_refl _) run.nonempty low high]
  exact another

theorem AreRuns.nodup (runs : AreRuns text tokens) : tokens.Nodup := by
  refine runs.apart.imp_of_mem fun {a b} member _ gap same => ?_
  have length := (runs.runs a member).nonempty
  rw [same] at gap length
  omega

theorem AreRuns.unique (runs : AreRuns text tokens) (runs' : AreRuns text others) : tokens = others := by
  have same : tokens.Perm others :=
    (List.perm_ext_iff_of_nodup runs.nodup runs'.nodup).mpr fun a => ⟨runs.mem runs', runs'.mem runs⟩
  refine same.eq_of_pairwise ?_ runs.apart runs'.apart
  intro a b memberA memberB before after
  have lengthA := (runs.runs a memberA).nonempty
  have lengthB := (runs'.runs b memberB).nonempty
  omega

end Unique

/-- The tokens of a text are its maximal runs of ASCII letters and digits in order, and nothing else is. -/
theorem scan_eq_iff (text : List Char) (tokens : List Token) : scan text = tokens ↔ AreRuns text tokens := by
  constructor
  · rintro rfl
    exact areRuns_scan text
  · intro runs
    exact (areRuns_scan text).unique runs

example : scan "Top-5 na\u00efve".toList = [⟨"top", 0, 3⟩, ⟨"5", 4, 5⟩, ⟨"na", 6, 8⟩, ⟨"ve", 9, 11⟩] := by decide

end Token

end TableTalk
