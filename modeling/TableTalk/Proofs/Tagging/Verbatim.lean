import TableTalk.Proofs.Domain.Entries
import TableTalk.Proofs.Tagging.Matching
import TableTalk.Proofs.Tagging.Precedence

namespace TableTalk

namespace Text

def wordsPlace? (text : List Char) : Option Span := do
  let first ← (runs inWords text).head?
  let last ← (runs inWords text).getLast?
  return ⟨first.start, last.stop⟩

theorem wordsPlace?_eq_some {text : List Char} {span : Span} :
    wordsPlace? text = some span ↔ ∃ first last, (runs inWords text).head? = some first ∧
      (runs inWords text).getLast? = some last ∧ span = ⟨first.start, last.stop⟩ := by
  simp only [wordsPlace?, Option.bind_eq_bind, Option.bind_eq_some_iff, Option.pure_def, Option.some.injEq]
  constructor
  · rintro ⟨first, atHead, last, atEnd, rfl⟩
    exact ⟨first, last, atHead, atEnd, rfl⟩
  · rintro ⟨first, last, atHead, atEnd, rfl⟩
    exact ⟨first, atHead, last, atEnd, rfl⟩

theorem wordsPlace?_covers {text : List Char} {span : Span} (found : wordsPlace? text = some span) {i : Nat} {c : Char}
    (here : text[i]? = some c) (part : inWords c = true) : span.start ≤ i ∧ i < span.stop := by
  obtain ⟨first, last, atHead, atEnd, rfl⟩ := wordsPlace?_eq_some.mp found
  obtain ⟨run, member, starts, stops⟩ := runsFrom_covers 0 here part
  have laid := laid_runsFrom inWords 0 text
  have low := laid.start_le atHead run member
  have high := laid.le_stop atEnd run member
  dsimp only
  omega

end Text

/-- The entity stands for a name, over all of its words: it is made of the first name with these words, and has a
record number if all names with these words have one category and one record number. -/
structure Entity.Recognises (x : Entity) (c : DomainCache) (e : DomainEntry) : Prop where
  kind : x.kind = .domainValue
  place : Text.wordsPlace? e.display.toList = some x.span
  name : ∃ first later, c.spelled e.words = first :: later ∧ x.table = some first.table ∧
    x.category = some first.category ∧ x.canonical = .text first.display ∧
      x.recordId = if later.all fun e => e.sameRecord first then first.recordId else .null

namespace Tagger

section Whole

variable {text : List Char} {n : Nat} {first last : Token} (atHead : (Token.scan text)[0]? = some first)
  (atEnd : (Token.scan text)[n]? = some last) (size : (Token.scan text).length = n + 1)

include atHead atEnd size

theorem scan_between {token : Token} (member : token ∈ Token.scan text) :
    first.start ≤ token.start ∧ token.stop ≤ last.stop := by
  obtain ⟨j, atJ⟩ := List.mem_iff_getElem?.mp member
  obtain ⟨inside, _⟩ := List.getElem?_eq_some_iff.mp atJ
  have nonempty : ∀ token ∈ Token.scan text, token.start < token.stop := fun _ member => (Token.scan_bounds member).1
  exact (Token.between_iff (Token.scan_ordered text) nonempty atHead atEnd atJ).mpr ⟨Nat.zero_le j, by omega⟩

theorem hit_between {v : Vocabulary} {names : Phrasebook PhraseMeaning} {hit : Hit PhraseMeaning}
    (member : hit ∈ phraseHits v names (Token.scan text)) :
    first.start ≤ hit.start ∧ hit.start < hit.stop ∧ hit.stop ≤ last.stop := by
  obtain ⟨a, memberA, b, memberB, starts, stops, nonempty⟩ := phraseHits_aligned member
  have low := (scan_between atHead atEnd size memberA).1
  have high := (scan_between atHead atEnd size memberB).2
  omega

theorem occursAt_whole {α : Type} {book : Phrasebook α} {meaning : α}
    (known : book.get? ((Token.scan text).map Token.text) = some meaning) :
    (⟨0, n, first.start, last.stop, meaning⟩ : Hit α) ∈ book.hits (Token.scan text) := by
  refine Phrasebook.mem_hits.mpr ⟨Nat.zero_le n, ?_, ?_, ?_⟩
  · dsimp only
    rw [atHead]
    rfl
  · dsimp only
    rw [Nat.sub_zero, Nat.zero_add, atEnd]
    rfl
  · dsimp only
    rw [Nat.sub_zero, List.drop_zero, List.take_of_length_le (Nat.le_of_eq size)]
    exact known

theorem longestFirst_whole (v : Vocabulary) {names : Phrasebook PhraseMeaning} {entries : List DomainEntry}
    (known : names.get? ((Token.scan text).map Token.text) = some (.names entries)) :
    ∃ rest, Hit.longestFirst (phraseHits v names (Token.scan text)) =
      ⟨0, n, first.start, last.stop, .names entries⟩ :: rest := by
  have inside {hit : Hit PhraseMeaning} (member : hit ∈ phraseHits v names (Token.scan text)) :=
    hit_between atHead atEnd size member
  -- names are found before keywords, and of the names the one that starts or ends first
  have found : (phraseHits v names (Token.scan text)).Pairwise fun a b =>
      (a.start < b.start ∨ (a.start = b.start ∧ a.stop < b.stop)) ∨ ∃ k, b.meaning = .keyword k := by
    refine List.pairwise_append.mpr ⟨(names.hits_sorted text).imp Or.inl, ?_, ?_⟩
    · refine List.pairwise_map.mpr (List.pairwise_of_forall fun _ b => Or.inr ⟨b.meaning, rfl⟩)
    · intro a _ b memberB
      obtain ⟨original, _, rfl⟩ := List.mem_map.mp memberB
      exact Or.inr ⟨original.meaning, rfl⟩
  refine Hit.longestFirst_head found ?_ ?_ ?_
  · exact List.mem_append_left _ (occursAt_whole atHead atEnd size known)
  · intro other member
    have bounds := inside member
    rw [Hit.precedes_iff]
    dsimp only
    omega
  · intro other member before earlier
    have bounds := inside member
    rw [Hit.precedes_iff] at before
    dsimp only at before
    rcases earlier with places | ⟨k, keyword⟩
    · dsimp only at places
      omega
    · cases keyword

theorem phrasePass_whole (v : Vocabulary) {names : Phrasebook PhraseMeaning} (asker : Asker)
    {primary : DomainEntry} {others : List DomainEntry}
    (known : names.get? ((Token.scan text).map Token.text) = some (.names (primary :: others))) :
    phrasePass v names asker text (Token.scan text) [] =
      ([⟨first.start, last.stop⟩],
        .ok [namesEntity (part text first.start last.stop) primary others 0.95 primary.display]) := by
  obtain ⟨rest, order⟩ := longestFirst_whole atHead atEnd size v known
  have tried {hit : Hit PhraseMeaning} : hit ∈ Hit.longestFirst (phraseHits v names (Token.scan text)) ↔
      hit ∈ phraseHits v names (Token.scan text) := List.mem_mergeSort
  rw [order] at tried
  have length := hit_between atHead atEnd size (tried.mp List.mem_cons_self)
  -- all other phrases lie inside of the one that took its place
  have blocked : ∀ hit ∈ rest, Claims.isFree [⟨first.start, last.stop⟩] ⟨hit.start, hit.stop⟩ = false := by
    intro hit member
    have bounds := hit_between atHead atEnd size (tried.mp (List.mem_cons_of_mem _ member))
    have shares : Span.overlaps ⟨hit.start, hit.stop⟩ ⟨first.start, last.stop⟩ = true := by
      simp only [Span.overlaps, Bool.and_eq_true, decide_eq_true_eq]
      dsimp only at length
      omega
    simp [Claims.isFree, shares]
  have free (span : Span) : Claims.isFree [] span = true := rfl
  change Claims.sweep _ _ [] (Hit.longestFirst (phraseHits v names (Token.scan text))) = _
  rw [order]
  simp only [Claims.sweep, free, ↓reduceIte, phraseEntity, Claims.sweep_blocked blocked]
  rfl

end Whole

theorem get?_matching {c : DomainCache} {words : List String} (several : 1 < words.length) {primary : DomainEntry}
    {others : List DomainEntry} (names : c.matching words = primary :: others) :
    (namePhrases c.multiword).get? words = some (.names (primary :: others)) := by
  rw [c.matching_several several] at names
  have spelled : words ≠ [] := by
    rintro rfl
    cases several
  have member : primary ∈ (c.multiword.filter fun entry => entry.1 = words).map Prod.snd := by
    rw [names]
    exact List.mem_cons_self
  obtain ⟨entry, among, _⟩ := List.mem_map.mp member
  obtain ⟨inside, same⟩ := List.mem_filter.mp among
  have known : words ∈ c.multiword.map Prod.fst :=
    List.mem_map.mpr ⟨entry, inside, of_decide_eq_true same⟩
  rw [get?_namePhrases (fun entry member => c.lower_multiword member) spelled, if_pos known, names]

theorem not_blank_of_token {question : String} {token : Token} (member : token ∈ Token.scan question.toList) :
    Text.isBlankText question = false := by
  obtain ⟨run, inside, rfl⟩ := List.mem_map.mp member
  obtain ⟨chars, letters, nonempty⟩ := Text.runs_chars inside
  obtain ⟨c, among⟩ := List.exists_mem_of_ne_nil _ nonempty
  have visible := letters c among
  rw [← chars] at among
  rw [Bool.eq_false_iff]
  intro blank
  have dark := List.all_eq_true.mp blank c (List.mem_of_mem_drop (List.mem_of_mem_take among))
  rw [Text.isTokenChar_blank dark] at visible
  cases visible

theorem tablePass_untabled {v : Vocabulary} {text : List Char} {tokens : List Token}
    (untabled : ∀ token ∈ tokens, Assoc.get? token.text v.tableWords = none) (claims : Claims) :
    tablePass v text tokens claims = (claims, .ok []) := by
  have none : tokens.filterMap (fun token =>
      (Assoc.get? token.text v.tableWords).map fun found => (token, found)) = [] := by
    rw [List.filterMap_eq_nil_iff]
    intro token member
    rw [untabled token member]
    rfl
  rw [tablePass, tokenPass, none]
  rfl

theorem tag_whole (l : Lexicon) (c : DomainCache) (asker : Asker) {question : String} {n : Nat} {first last : Token}
    (atHead : (Token.scan question.toList)[0]? = some first) (atEnd : (Token.scan question.toList)[n]? = some last)
    (size : (Token.scan question.toList).length = n + 1) (several : 1 ≤ n) {primary : DomainEntry}
    {others : List DomainEntry}
    (names : c.matching ((Token.scan question.toList).map Token.text) = primary :: others)
    (untabled : ∀ token ∈ Token.scan question.toList, Assoc.get? token.text l.tableWords = none) :
    ∃ x ∈ ((ofLexicon l).tag (some (.ofCache c)) asker question).1,
      x.kind = .domainValue ∧ x.span = ⟨first.start, last.stop⟩ := by
  have long : 1 < ((Token.scan question.toList).map Token.text).length := by
    rw [List.length_map, size]
    omega
  have whole := phrasePass_whole atHead atEnd size l.vocabulary asker (get?_matching long names)
  have visible := not_blank_of_token (List.mem_of_getElem? atHead)
  have nothing : tablePass l.vocabulary question.toList (Token.scan question.toList) [] = ([], .ok []) :=
    tablePass_untabled untabled []
  refine ⟨namesEntity (part question.toList first.start last.stop) primary others 0.95 primary.display, ?_, rfl, rfl⟩
  rw [tag_eq, Entity.mem_inOrder, passesOver, visible, if_neg Bool.false_ne_true]
  change _ ∈ (Pass.run (passes l.vocabulary (namePhrases c.multiword) _ asker question.toList) []).2
  rw [passes, Pass.run_cons, Pass.run_cons, nothing, whole]
  exact List.mem_append_right _ (List.mem_append_left _ (List.mem_singleton_self _))

theorem wordsPlace?_plain {text : List Char} (plain : ∀ c ∈ text, Text.isHiddenLetter c = false)
    {n : Nat} {first last : Token} (atHead : (Token.scan text)[0]? = some first)
    (atEnd : (Token.scan text)[n]? = some last) (size : (Token.scan text).length = n + 1) :
    Text.wordsPlace? text = some ⟨first.start, last.stop⟩ := by
  rw [Token.scan, List.getElem?_map] at atHead atEnd
  rw [Token.scan, List.length_map] at size
  obtain ⟨front, here, rfl⟩ := Option.map_eq_some_iff.mp atHead
  obtain ⟨back, there, rfl⟩ := Option.map_eq_some_iff.mp atEnd
  rw [Text.wordsPlace?_eq_some, Text.runs_inWords plain]
  refine ⟨front, back, ?_, ?_, rfl⟩
  · rw [List.head?_eq_getElem?]
    exact here
  · rw [List.getLast?_eq_getElem?, size]
    exact there

section Names

variable {c : DomainCache} (keyed : ∀ e ∈ c.entries none, e.IsKeyed) {e : DomainEntry}

include keyed in
theorem words_of_matching {words : List String} (several : 1 < words.length) {primary : DomainEntry}
    {others : List DomainEntry} (names : c.matching words = primary :: others) :
    Text.wordsOf primary.display = words := by
  obtain ⟨later, spelled, _⟩ := c.matching_spelled several names
  have member : primary ∈ c.spelled words := by
    rw [spelled]
    exact List.mem_cons_self
  obtain ⟨inside, same⟩ := List.mem_filter.mp member
  rw [← (keyed primary inside).words_eq, of_decide_eq_true same]

theorem matching_ne_nil (member : e ∈ c.entries none) (several : 1 < e.words.length) : c.matching e.words ≠ [] := by
  have among : e ∈ c.matching e.words := by
    rw [c.matching_several several]
    refine List.mem_map.mpr ⟨(e.words, e), List.mem_filter.mpr ⟨?_, decide_eq_true rfl⟩, rfl⟩
    exact DomainCache.mem_multiword.mpr ⟨member, rfl, several⟩
  exact List.ne_nil_of_mem among

theorem recognises_of_matches {x : Entity} {primary : DomainEntry} {others : List DomainEntry}
    (stands : x.Matches e.display.toList c primary others) (kind : x.kind = .domainValue)
    (place : Text.wordsPlace? e.display.toList = some x.span) (several : 1 < e.words.length)
    (words : wordsIn e.display.toList x.span = e.words) : x.Recognises c e where
  kind := kind
  place := place
  name := by
    have names := stands.names
    rw [words] at names
    obtain ⟨later, spelled, same⟩ := c.matching_spelled several names
    refine ⟨primary, later, spelled, stands.table, stands.category, ?_, ?_⟩
    · exact stands.display (words.symm ▸ several)
    · rw [stands.recordId, same.all_eq]

include keyed in
theorem recognised_of_plain (l : Lexicon) (asker : Asker) (member : e ∈ c.entries none) (several : 1 < e.words.length)
    (untabled : ∀ word ∈ e.words, Assoc.get? word l.tableWords = none)
    (plain : ∀ ch ∈ e.display.toList, Text.isHiddenLetter ch = false) :
    ∃ x ∈ ((ofLexicon l).tag (some (.ofCache c)) asker e.display).1, x.Recognises c e := by
  have texts : (Token.scan e.display.toList).map Token.text = e.words := by
    rw [(keyed e member).words_eq]
    exact (Token.scan_eq_words_iff e.display).mpr plain
  have count : (Token.scan e.display.toList).length = e.words.length := by
    rw [← texts, List.length_map]
  obtain ⟨n, size⟩ : ∃ n, (Token.scan e.display.toList).length = n + 1 + 1 := ⟨e.words.length - 2, by omega⟩
  have atHead := List.getElem?_eq_getElem (l := Token.scan e.display.toList) (i := 0) (by omega)
  have atEnd := List.getElem?_eq_getElem (l := Token.scan e.display.toList) (i := n + 1) (by omega)
  obtain ⟨primary, others, names⟩ := List.exists_cons_of_ne_nil (matching_ne_nil member several)
  have apart : ∀ token ∈ Token.scan e.display.toList, Assoc.get? token.text l.tableWords = none := fun token inside =>
    untabled token.text (texts ▸ List.mem_map_of_mem inside)
  obtain ⟨x, tagged, kind, span⟩ := tag_whole l c asker atHead atEnd size (by omega) (texts.symm ▸ names) apart
  have place := wordsPlace?_plain plain atHead atEnd size
  have words : wordsIn e.display.toList x.span = e.words := by
    rw [span, wordsIn_tokens (i := 0) (n := n + 1) (by rw [atHead]; rfl) (by rw [Nat.zero_add, atEnd]; rfl),
      List.drop_zero, List.take_of_length_le (Nat.le_of_eq size), texts]
  obtain ⟨_, _, stands⟩ := tag_namesMatch l c asker e.display x tagged kind
  exact ⟨x, tagged, recognises_of_matches stands kind (span ▸ place) several words⟩

theorem token_inside {text : List Char} {span : Span} (place : Text.wordsPlace? text = some span) {token : Token}
    (member : token ∈ Token.scan text) : span.start ≤ token.start ∧ token.stop ≤ span.stop := by
  obtain ⟨nonempty, _⟩ := Token.scan_bounds member
  have part {c : Char} (letter : Token.isTokenChar c = true) : Text.inWords c = true := by
    rw [Text.inWords_eq, Bool.or_eq_true]
    exact Or.inl letter
  obtain ⟨first, here, letter⟩ := Token.scan_getElem? member (Nat.le_refl _) nonempty
  obtain ⟨last, there, letter'⟩ := Token.scan_getElem? member (i := token.stop - 1) (by omega) (by omega)
  have low := (Text.wordsPlace?_covers place here (part letter)).1
  have high := (Text.wordsPlace?_covers place there (part letter')).2
  omega

theorem plain_of_token {text : List Char} {token : Token} (member : token ∈ Token.scan text)
    (place : Text.wordsPlace? text = some ⟨token.start, token.stop⟩) :
    ∀ c ∈ text, Text.isHiddenLetter c = false := by
  intro c inside
  rw [Bool.eq_false_iff]
  intro hidden
  obtain ⟨i, here⟩ := List.mem_iff_getElem?.mp inside
  have part : Text.inWords c = true := by
    rw [Text.inWords_eq, hidden, Bool.or_true]
  obtain ⟨low, high⟩ := Text.wordsPlace?_covers place here part
  obtain ⟨other, there, letter⟩ := Token.scan_getElem? member (Int.ofNat_le.mp low) (Int.ofNat_lt.mp high)
  cases here.symm.trans there
  rw [Token.isTokenChar, Text.not_alphanum_of_hidden hidden] at letter
  cases letter

include keyed in
theorem plain_of_recognised (l : Lexicon) (asker : Asker) (member : e ∈ c.entries none) {x : Entity}
    (tagged : x ∈ ((ofLexicon l).tag (some (.ofCache c)) asker e.display).1) (recognises : x.Recognises c e) :
    ∀ ch ∈ e.display.toList, Text.isHiddenLetter ch = false := by
  obtain ⟨kind, place, first, later, spelled, _, _, display, _⟩ := recognises
  obtain ⟨primary, others, stands⟩ := tag_namesMatch l c asker e.display x tagged kind
  have other : x.kind ≠ .numericFilter := by
    rw [kind]
    nofun
  obtain ⟨a, memberA, b, memberB, start, stop⟩ := (tag_wellPlaced _ _ _ _ x tagged).aligned other
  have words : wordsIn e.display.toList x.span = (Token.scan e.display.toList).map Token.text := by
    rw [wordsIn, List.filter_eq_self.mpr]
    intro token inside
    exact decide_eq_true (token_inside place inside)
  by_cases several : 1 < (wordsIn e.display.toList x.span).length
  · -- the name found has the words of the question, and the same text as one with the words of the name
    have displays := Canonical.text.inj ((stands.display several).symm.trans display)
    have spells := words_of_matching keyed several stands.names
    have among : first ∈ c.spelled e.words := by
      rw [spelled]
      exact List.mem_cons_self
    obtain ⟨inside, same⟩ := List.mem_filter.mp among
    rw [displays, ← (keyed first inside).words_eq, of_decide_eq_true same, (keyed e member).words_eq, words] at spells
    exact (Token.scan_eq_words_iff e.display).mp spells.symm
  · rw [words, List.length_map, Nat.not_lt] at several
    have single : b = a := by
      obtain ⟨token, rest, tokens⟩ := List.exists_cons_of_ne_nil (List.ne_nil_of_mem memberA)
      rw [tokens, List.length_cons] at several
      have none : rest = [] := List.length_eq_zero_iff.mp (by omega)
      rw [tokens, none, List.mem_singleton] at memberA memberB
      rw [memberA, memberB]
    rw [single] at stop
    have whole : x.span = ⟨a.start, a.stop⟩ := by rw [← start, ← stop]
    exact plain_of_token memberA (whole ▸ place)

end Names

/-- Of the names of a loaded cache that have several words and no table word, tagging recognises in the text of a name
just those without a character that hides a letter. -/
theorem tag_display (l : Lexicon) (o : CacheOptions) (steps : List (DomainCache.LoadCall × Store)) (asker : Asker)
    (e : DomainEntry) (member : e ∈ (DomainCache.calls l.domainSources { options := o } steps).entries none)
    (several : 1 < e.words.length) (untabled : ∀ word ∈ e.words, Assoc.get? word l.tableWords = none) :
    let c := DomainCache.calls l.domainSources { options := o } steps
    (∃ x ∈ ((ofLexicon l).tag (some (.ofCache c)) asker e.display).1, x.Recognises c e) ↔
      ∀ ch ∈ e.display.toList, Text.isHiddenLetter ch = false := by
  intro c
  have keyed := DomainCache.calls_keyed l.domainSources o steps
  constructor
  · rintro ⟨x, tagged, recognises⟩
    exact plain_of_recognised keyed l asker member tagged recognises
  · exact recognised_of_plain keyed l asker member several untabled

def probeLexicon : Lexicon :=
  { tables := [{ table := "products" }]
    domainSources := [{ category := "product", table := "products", valueColumns := ["name"] }] }

def probeSteps (name : String) : List (DomainCache.LoadCall × Store) :=
  [(.ensureLoaded, { contents := .memory [("products", DomainCache.recordFrame 1 name)] })]

def probeCache (name : String) : DomainCache :=
  DomainCache.calls probeLexicon.domainSources .unloaded (probeSteps name)

def kelvinProbe : String :=
  String.ofList (Char.ofNat 0x212A :: "elvin probe".toList)

theorem single_name {c : DomainCache} {display : String} {words : List String}
    (loaded : (c.entries none).map (fun e => (e.display, e.words)) = [(display, words)]) :
    ∃ e ∈ c.entries none, e.display = display ∧ e.words = words := by
  obtain ⟨e, only, same⟩ := List.map_eq_singleton_iff.mp loaded
  refine ⟨e, ?_, congrArg Prod.fst same, congrArg Prod.snd same⟩
  rw [only]
  exact List.mem_singleton_self e

theorem ascii_probe_recognised :
    let asker : Asker := { now := .midnight ⟨2024, 6, 12⟩ }
    let c := probeCache "Kelvin probe"
    ∃ e ∈ c.entries none, e.display = "Kelvin probe" ∧
      ∃ x ∈ ((ofLexicon probeLexicon).tag (some (.ofCache c)) asker e.display).1, x.Recognises c e := by
  intro asker c
  have loaded : (c.entries none).map (fun e => (e.display, e.words)) = [("Kelvin probe", ["kelvin", "probe"])] := by
    decide +kernel
  obtain ⟨e, member, display, words⟩ := single_name loaded
  have several : 1 < e.words.length := by
    rw [words]
    decide
  have untabled : ∀ word ∈ e.words, Assoc.get? word probeLexicon.tableWords = none := by
    rw [words]
    decide +kernel
  have plain : ∀ ch ∈ e.display.toList, Text.isHiddenLetter ch = false := by
    have all : ("Kelvin probe".toList.all fun ch => Text.isHiddenLetter ch == false) = true := by decide +kernel
    rw [display]
    exact fun ch inside => eq_of_beq (List.all_eq_true.mp all ch inside)
  have recognised := (tag_display probeLexicon {} (probeSteps "Kelvin probe") asker e member several untabled).mpr plain
  exact ⟨e, member, display, recognised⟩

/-- Of a name that starts with a Kelvin sign, only the second word is recognised. -/
theorem kelvin_probe_unrecognised :
    let asker : Asker := { now := .midnight ⟨2024, 6, 12⟩ }
    let c := probeCache kelvinProbe
    ∃ e ∈ c.entries none, e.display = kelvinProbe ∧ e.words = ["kelvin", "probe"] ∧
      (∀ word ∈ e.words, Assoc.get? word probeLexicon.tableWords = none) ∧
        ((ofLexicon probeLexicon).tag (some (.ofCache c)) asker e.display).1.map Entity.span = [⟨7, 12⟩] ∧
          ¬ ∃ x ∈ ((ofLexicon probeLexicon).tag (some (.ofCache c)) asker e.display).1, x.Recognises c e := by
  intro asker c
  have loaded : (c.entries none).map (fun e => (e.display, e.words)) = [(kelvinProbe, ["kelvin", "probe"])] := by
    decide +kernel
  obtain ⟨e, member, display, words⟩ := single_name loaded
  have untabled : ∀ word ∈ e.words, Assoc.get? word probeLexicon.tableWords = none := by
    rw [words]
    decide +kernel
  have tagged : ((ofLexicon probeLexicon).tag (some (.ofCache c)) asker kelvinProbe).1.map Entity.span =
      [⟨7, 12⟩] := by decide +kernel
  refine ⟨e, member, display, words, untabled, ?_, ?_⟩
  · rw [display]
    exact tagged
  · rintro ⟨x, among, recognises⟩
    have place : Text.wordsPlace? kelvinProbe.toList = some ⟨0, 12⟩ := by decide +kernel
    rw [display] at among
    have span := List.mem_map_of_mem (f := Entity.span) among
    have whole := recognises.place
    rw [display, place, Option.some.injEq] at whole
    rw [tagged, ← whole] at span
    exact absurd span (by decide)

end Tagger

end TableTalk
