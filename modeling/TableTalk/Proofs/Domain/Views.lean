import TableTalk.Proofs.Domain.Entries
import TableTalk.Proofs.Domain.Index
import TableTalk.Proofs.Text.Fields

namespace TableTalk

namespace Variations

def isPlain (c : Char) : Bool :=
  c.isLower || c.isDigit

def plainWords (key : String) : List String :=
  (Text.runs isPlain key.toList).map fun run => String.ofList run.chars

/-- The beginnings of a word that count as forms: shorter than the word, and of a length between two bounds. -/
def Begins (lengths : PrefixLengths) (word form : String) : Prop :=
  form.toList <+: word.toList ∧ form.length < word.length ∧
    lengths.least ≤ form.length ∧ (form.length : Int) ≤ lengths.most

/-- A form of a key: the key, the key without spaces, a word of it with two characters or more, or a beginning of
a word. -/
def IsForm (lengths : PrefixLengths) (key form : String) : Prop :=
  form = key ∨ form = joined key ∨
    ∃ word ∈ plainWords key, form = word ∧ 2 ≤ form.length ∨ Begins lengths word form

instance (lengths : PrefixLengths) (word form : String) : Decidable (Begins lengths word form) :=
  inferInstanceAs (Decidable (_ ∧ _))

instance (lengths : PrefixLengths) (key form : String) : Decidable (IsForm lengths key form) :=
  inferInstanceAs (Decidable (_ ∨ _ ∨ _))

variable {lengths : PrefixLengths} {form word : String}

theorem mem_lengthsFor {n : Int} (positive : 1 ≤ lengths.least) :
    n ∈ lengthsFor lengths word ↔ lengths.least ≤ n ∧ n ≤ lengths.most ∧ n < word.length := by
  simp only [lengthsFor, List.mem_map, List.mem_range]
  constructor
  · rintro ⟨i, inside, rfl⟩
    omega
  · rintro ⟨low, high, short⟩
    exact ⟨(n - lengths.least).toNat, by omega, by omega⟩

theorem mem_beginningsOf (positive : 1 ≤ lengths.least) :
    form ∈ beginningsOf lengths word ↔ Begins lengths word form := by
  rw [beginningsOf, List.mem_map, Begins]
  constructor
  · rintro ⟨n, among, rfl⟩
    obtain ⟨low, high, short⟩ := (mem_lengthsFor positive).mp among
    obtain ⟨n, rfl⟩ := Int.eq_ofNat_of_zero_le (show 0 ≤ n by omega)
    have count : Text.frontCount word.length n = n := rfl
    have size : (Text.front word n).length = n := by
      rw [Text.front, count, String.length_ofList, List.length_take, String.length_toList]
      exact Nat.min_eq_left (by omega)
    refine ⟨?_, by omega, by omega, by omega⟩
    rw [Text.front, String.toList_ofList]
    exact List.take_prefix _ _
  · rintro ⟨starts, short, low, high⟩
    refine ⟨form.length, (mem_lengthsFor positive).mpr ⟨low, high, by omega⟩, ?_⟩
    rw [← String.toList_inj, Text.front, String.toList_ofList, ← String.length_toList]
    exact (List.prefix_iff_eq_take.mp starts).symm

end Variations

namespace Text

theorem isPlain_eq {c : Char} (lowered : IsLowered c) : Variations.isPlain c = c.isAlphanum := by
  by_cases ascii : c.toNat < 128
  · exact ascii_all (P := fun c => c.toLower = c → Variations.isPlain c = c.isAlphanum) (by decide) ascii lowered.2
  · have other : c.isAlphanum = false := Bool.eq_false_iff.mpr fun letter => ascii (alphanum_bounds letter).2
    have parts : (c.isUpper || c.isLower) = false ∧ c.isDigit = false := Bool.or_eq_false_iff.mp other
    rw [other, Variations.isPlain, (Bool.or_eq_false_iff.mp parts.1).2, parts.2, Bool.or_false]

theorem wordsOf_lowered (text : String) : wordsOf (lower text) = Variations.plainWords (lower text) := by
  have same : runs Variations.isPlain (lowerChars text.toList) = runs Char.isAlphanum (lowerChars text.toList) :=
    runs_congr fun c member => isPlain_eq (lowerFrom_lowered false text.toList c member)
  rw [wordsOf_lower, Variations.plainWords, lower, String.toList_ofList, same, wordsOf]

end Text

/-- A name as it is made from a cell: nothing is to be collapsed in its text, its key is its text in lower case, its
forms are those of its text, and it belongs to a record. -/
structure DomainEntry.IsMade (lengths : PrefixLengths) (e : DomainEntry) : Prop where
  collapsed : Text.collapse e.display = e.display
  keyed : e.IsKeyed
  nonempty : e.key ≠ ""
  forms : e.forms = .of lengths e.display
  usable : DomainSource.isUsableRecord e.recordId = true

theorem DomainSource.Reads.isMade {s : DomainSource} {lengths : PrefixLengths} {row : List (String × Value)}
    {e : DomainEntry} (read : s.Reads lengths row e) : e.IsMade lengths := by
  have nonempty := read.nonempty
  have usable := read.usable
  obtain ⟨_, _, cell, _, _, rfl⟩ := read.cell
  exact ⟨Text.collapse_collapse _, rfl, nonempty, rfl, usable⟩

namespace DomainEntry.IsMade

variable {lengths : PrefixLengths} {e : DomainEntry}

theorem normalized (made : e.IsMade lengths) : Variations.normalized e.display = e.key := by
  have lowered := Text.collapse_lower_collapse e.display
  rw [made.collapsed, ← made.keyed] at lowered
  rw [Variations.normalized, ← made.keyed, lowered]

theorem words_eq (made : e.IsMade lengths) : e.words = Variations.plainWords e.key := by
  rw [DomainEntry.words, made.keyed, Text.wordsOf_lowered]

theorem joined_ne (made : e.IsMade lengths) : Variations.joined e.key ≠ "" := by
  have collapsed : Text.collapse e.key = e.key := by
    rw [← made.normalized, Variations.normalized, Text.collapse_collapse]
  have front := (Text.tidy_collapse e.key).front
  rw [collapsed] at front
  obtain ⟨c, rest, key⟩ := List.exists_cons_of_ne_nil fun empty => made.nonempty (String.toList_eq_nil_iff.mp empty)
  rw [key] at front
  have visible : (c != ' ') = true := by
    rw [bne_iff_ne]
    rintro rfl
    cases front
  have kept : (c :: rest).filter (· != ' ') = c :: rest.filter (· != ' ') := List.filter_cons_of_pos visible
  rw [Variations.joined, key, kept]
  intro empty
  cases String.ofList_eq_empty_iff.mp empty

theorem nonempty_of_whole (made : e.IsMade lengths) {form : String} (whole : Variations.IsWhole e.key form) :
    form ≠ "" := by
  rcases whole with rfl | rfl | ⟨_, long⟩
  · exact made.nonempty
  · exact made.joined_ne
  · rintro rfl
    exact absurd long (by decide)

theorem mem_whole (made : e.IsMade lengths) (form : String) :
    form ∈ e.forms.whole ↔ Variations.IsWhole e.key form := by
  rw [made.forms, Variations.mem_whole, made.normalized]
  exact ⟨And.left, fun whole => ⟨whole, made.nonempty_of_whole whole⟩⟩

theorem mem_forms (positive : 1 ≤ lengths.least) (made : e.IsMade lengths) (form : String) :
    form ∈ e.forms.all ↔ Variations.IsForm lengths e.key form := by
  have words : Text.wordsOf e.key = Variations.plainWords e.key := made.words_eq
  have whole : Variations.IsWhole e.key form ↔ form = e.key ∨ form = Variations.joined e.key ∨
      ∃ word ∈ Variations.plainWords e.key, form = word ∧ 2 ≤ form.length := by
    rw [Variations.IsWhole, words]
    refine or_congr_right (or_congr_right ⟨?_, ?_⟩)
    · rintro ⟨among, long⟩
      exact ⟨form, among, rfl, long⟩
    · rintro ⟨_, among, rfl, long⟩
      exact ⟨among, long⟩
  have begins : (∃ word ∈ Text.wordsOf e.key, form ∈ Variations.beginningsOf lengths word) ↔
      ∃ word ∈ Variations.plainWords e.key, Variations.Begins lengths word form := by
    simp only [words, Variations.mem_beginningsOf positive]
  have split : Variations.IsForm lengths e.key form ↔ Variations.IsWhole e.key form ∨
      ∃ word ∈ Variations.plainWords e.key, Variations.Begins lengths word form := by
    rw [whole, Variations.IsForm]
    simp only [and_or_left, exists_or, or_assoc]
  rw [made.forms, Variations.all, List.mem_append, Variations.mem_whole, Variations.mem_beginnings, made.normalized,
    begins, split]
  constructor
  · rintro (⟨here, _⟩ | ⟨there, _⟩)
    · exact Or.inl here
    · exact Or.inr there
  · intro found
    by_cases here : Variations.IsWhole e.key form
    · exact Or.inl ⟨here, made.nonempty_of_whole here⟩
    · exact Or.inr ⟨found.resolve_left here, here⟩

end DomainEntry.IsMade

namespace DomainCache

theorem calls_made (sources : List DomainSource) (o : CacheOptions) (steps : List (LoadCall × Store)) :
    ∀ e ∈ (calls sources { options := o } steps).entries none, e.IsMade o.lengths := by
  refine calls_all fun s _ step _ found loaded e member => ?_
  obtain ⟨_, _, read⟩ := DomainSource.load_reads loaded
  obtain ⟨_, _, here⟩ := read e member
  exact here.isMade

theorem distinct_loadSource {c : DomainCache} {store : Store} {state : Loading} {s : DomainSource}
    (distinct : (Assoc.keys state.byCategory).Nodup) :
    (Assoc.keys (c.loadSource store state s).byCategory).Nodup := by
  unfold loadSource
  split
  · exact Assoc.keys_put_nodup distinct
  · exact Assoc.keys_put_nodup distinct

/-- A cache counts its loads as its version does, is loaded after the first of them, and lists no category twice. -/
structure Counts (c : DomainCache) : Prop where
  version : c.version = c.loads
  loaded : c.isLoaded = true ↔ 0 < c.loads
  categories : (Assoc.keys c.byCategory).Nodup

theorem counts_refresh {c : DomainCache} (counts : c.Counts) (sources : List DomainSource) (store : Store) :
    (c.refresh sources store).Counts where
  version := congrArg (· + 1) counts.version
  loaded := ⟨fun _ => Nat.succ_pos c.loads, fun _ => rfl⟩
  categories := by
    suffices run : ∀ state : Loading, (Assoc.keys state.byCategory).Nodup →
        (Assoc.keys (sources.foldl (c.loadSource store) state).byCategory).Nodup by
      exact run {} List.nodup_nil
    induction sources with
    | nil => exact fun _ distinct => distinct
    | cons s rest ih => exact fun state distinct => ih _ (distinct_loadSource distinct)

theorem counts_calls (sources : List DomainSource) {c : DomainCache} (counts : c.Counts)
    (steps : List (LoadCall × Store)) : (calls sources c steps).Counts := by
  induction steps generalizing c with
  | nil => exact counts
  | cons step rest ih =>
    refine ih (c := call sources c step) ?_
    rw [call_eq]
    split
    · exact counts_refresh counts sources step.2
    · exact counts

theorem counts_new (o : CacheOptions) : ({ options := o } : DomainCache).Counts :=
  ⟨rfl, ⟨nofun, nofun⟩, List.nodup_nil⟩

theorem get?_stats (c : DomainCache) (category : String) :
    (Assoc.get? category c.stats).getD 0 = (c.entries (some category)).length := by
  rw [stats, Assoc.get?_map, entries, ofCategory]
  cases Assoc.get? category c.byCategory <;> rfl

theorem keys_stats (c : DomainCache) : Assoc.keys c.stats = Assoc.keys c.byCategory := by
  rw [Assoc.keys, stats, List.map_map]
  rfl

theorem entries_grouped {c : DomainCache} (distinct : (Assoc.keys c.byCategory).Nodup) :
    c.entries none = (Assoc.keys c.stats).flatMap fun category => c.entries (some category) := by
  rw [keys_stats]
  exact Assoc.flatMap_snd distinct

theorem multiword_perm (c : DomainCache) :
    c.multiword.Perm (((c.entries none).map fun e => (e.words, e)).filter fun entry => 1 < entry.1.length) := by
  rw [multiword, byKey_eq]
  exact ((Assoc.groupBy_perm DomainEntry.key (c.entries none)).map _).filter _

/-- All views of a cache show the names it lists, whatever calls were made before and whichever of them failed: those
with a key, those with a form, and those of several words, each under its words. The numbers of names are those of
the categories, and what counts the loads agrees. -/
theorem calls_views (o : CacheOptions) (positive : 1 ≤ o.lengths.least) (sources : List DomainSource)
    (steps : List (LoadCall × Store)) :
    let c := calls sources { options := o } steps
    (∀ key, c.named key =
      (c.entries none).filter fun e => e.key = Text.collapse (Text.lower key)) ∧
    (∀ token, c.withForm token =
      (c.entries none).filter fun e => Variations.IsForm o.lengths e.key (Text.lower token)) ∧
    (c.multiword.Perm (((c.entries none).map fun e => (Variations.plainWords e.key, e)).filter
      fun entry => 1 < entry.1.length)) ∧
    ((Assoc.keys c.stats).Nodup ∧
      c.entries none = ((Assoc.keys c.stats).flatMap fun category => c.entries (some category)) ∧
      ∀ category, (Assoc.get? category c.stats).getD 0 = (c.entries (some category)).length) ∧
    c.version = c.loads ∧ (c.isLoaded = true ↔ 0 < c.loads) ∧
      (0 < c.loads → ∀ store, c.ensureLoaded sources store = c) := by
  intro c
  have made := calls_made sources o steps
  have counts := counts_calls sources (counts_new o) steps
  refine ⟨c.named_eq, fun token => ?_, ?_, ⟨?_, entries_grouped counts.categories, c.get?_stats⟩, counts.version,
    counts.loaded, fun before store => ?_⟩
  · have once : ∀ e ∈ c.entries none, e.forms.all.Nodup := by
      intro e member
      rw [(made e member).forms]
      exact Variations.nodup_all_of _ _
    rw [c.withForm_eq once]
    exact List.filter_congr fun e member => decide_eq_decide.mpr ((made e member).mem_forms positive _)
  · have words : ((c.entries none).map fun e => (e.words, e)) =
        (c.entries none).map fun e => (Variations.plainWords e.key, e) :=
      List.map_congr_left fun e member => by rw [(made e member).words_eq]
    rw [← words]
    exact c.multiword_perm
  · rw [keys_stats]
    exact counts.categories
  · rw [ensureLoaded, if_pos (counts.loaded.mpr before)]

theorem views_second_source_repeated :
    1 ≤ ({} : CacheOptions).lengths.least ∧
      let c := calls pairSources { options := {} } [(.ensureLoaded, pairStore []), (.refresh, pairStore ["a"])]
      (c.named " INK").map DomainEntry.display = ["ink", "ink"] ∧
        (c.withForm "Ink").map DomainEntry.display = ["ink", "ink"] ∧ c.withForm "in" = [] ∧
          c.multiword = [] ∧ c.version = 2 := by
  refine ⟨by decide, ?_⟩
  intro c
  obtain ⟨named, withForm, multiword, _, version, _⟩ := calls_views {} (by decide) pairSources
    [(.ensureLoaded, pairStore []), (.refresh, pairStore ["a"])]
  refine ⟨?_, ?_, ?_, ?_, ?_⟩
  · rw [named]
    decide +kernel
  · rw [withForm]
    decide +kernel
  · rw [withForm]
    exact List.filter_eq_nil_iff.mpr (by decide +kernel)
  · refine List.Perm.eq_nil (multiword.trans (List.Perm.of_eq ?_))
    exact List.filter_eq_nil_iff.mpr (by decide +kernel)
  · rw [version]
    decide +kernel

end DomainCache

end TableTalk
