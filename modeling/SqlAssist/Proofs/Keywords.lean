import SqlAssist.Cursor.Context
import Mathlib

/-!
# Keyword contexts as a grammar

The cursor reader decides "a table keyword ends the text" by reading the text backwards:
it drops a loose word and a run of blanks, matches the reversed words of the keyword phrase
case-blind with runs of blanks between them, and looks at the character before the phrase.
This file states what that reading accepts in forward terms, as a grammar, and proves the
reader accepts exactly that.

## The grammar

A keyword word is *spelled* by a text of the same length whose characters spell its letters
case-blind (`Word.spells`); a phrase is spelled by its words' spellings with a nonempty run of
blanks between each two (`SpellsPhrase`).  The phrase may open the text or follow a blank
(`OpensAfter`); a text that is such an opening and a spelling of the phrase ends in the
phrase (`PhraseAtEnd`).  The keyword *ends* a text when the text ends in the phrase (allowed
only where the phrase may stand alone), or in the phrase, a run of blanks and a word of
loose characters (`KeywordAtEnd`); and "the end" admits one final line feed after it.

## Why the backward reading is exact

Reading backwards takes every run whole: all the loose characters at the end, all the blanks
before them.  That is the grammar's reading only because the runs cannot reach into their
neighbours: a loose character is never blank (`isBlank_of_isLoose`), and a character that
spells a keyword letter is blank only if the letter is (`isBlank_of_spells`), which no
letter of a keyword is (`solid_tableKeywords`).  So the keyword's first and last characters
stop every run of blanks, and a run of blanks stops the loose word.

## Main statements

* `dropPhrase_eq_some_iff`: matching a phrase at the head of a text takes off exactly a
  spelling of it.
* `endsWithKeyword_iff`: the reader's test is the grammar.
* `afterTableKeyword_iff`: the text ends where a table name is expected exactly when one of the
  table keyword phrases ends it, alone or followed by blanks and a loose word.
-/

namespace SqlAssist.Word

/-! ## Character classes that do not meet -/

/-- A blank is no lowercase ASCII letter, so uppercasing keeps it. -/
theorem toUpper_of_isBlank {c : Char} (h : Text.isBlank c = true) : c.toUpper = c := by
  have hn : c.toNat < 97 ∨ 122 < c.toNat := by
    simp only [Text.isBlank, decide_eq_true_eq] at h
    omega
  unfold Char.toUpper
  rw [dif_neg]
  rintro ⟨h1, h2⟩
  simp only [UInt32.le_iff_toNat_le] at h1 h2
  have ha : 'a'.val.toNat = 97 := rfl
  have hz : 'z'.val.toNat = 122 := rfl
  simp only [Char.toNat] at hn
  omega

/-- A blank spells only itself: the letter it spells is blank too. -/
theorem isBlank_of_spells {k c : Char} (hs : spells k c = true) (hc : Text.isBlank c = true) :
    Text.isBlank k = true := by
  simp only [spells, decide_eq_true_eq] at hs
  rcases hs with ⟨hk, -⟩ | ⟨-, rfl | rfl⟩ | ⟨-, rfl⟩ | ⟨-, rfl⟩
  · rw [← hk, toUpper_of_isBlank hc]
    exact hc
  all_goals exact absurd hc (by decide)

/-- No loose word character is blank. -/
theorem isBlank_of_isLoose {c : Char} (h : isLoose c = true) : Text.isBlank c = false := by
  have hA : 'A'.val.toNat = 65 := rfl
  have hZ : 'Z'.val.toNat = 90 := rfl
  have ha : 'a'.val.toNat = 97 := rfl
  have hz : 'z'.val.toNat = 122 := rfl
  have h0 : '0'.val.toNat = 48 := rfl
  have h9 : '9'.val.toNat = 57 := rfl
  simp only [isLoose, isPlain, Char.isAlphanum, Char.isAlpha, Char.isUpper, Char.isLower,
    Char.isDigit, Bool.or_eq_true, decide_eq_true_eq, Bool.and_eq_true,
    UInt32.le_iff_toNat_le] at h
  simp only [Text.isBlank, decide_eq_false_iff_not]
  -- an ASCII upper or lower letter or digit, then `_` and the four letters past ASCII
  rcases h with (((((hascii | rfl) | rfl) | rfl) | rfl) | rfl)
  · exact fun hb => by simp only [Char.toNat] at hb; omega
  all_goals decide

/-! ## Spelling a keyword phrase -/

/-- `s` spells the keyword word `w` case-blind, character for character. -/
def Spells (w s : List Char) : Prop := List.Forall₂ (fun k c => spells k c = true) w s

/-- A nonempty run of blanks. -/
def BlankRun (g : List Char) : Prop := g ≠ [] ∧ ∀ c ∈ g, Text.isBlank c = true

theorem blankRun_iff_all {g : List Char} : BlankRun g ↔ (!g.isEmpty && g.all Text.isBlank) = true := by
  simp [BlankRun]

instance : DecidablePred BlankRun := fun _ => decidable_of_iff _ blankRun_iff_all.symm

theorem BlankRun.append {g w : List Char} (hg : BlankRun g) (hw : ∀ c ∈ w, Text.isBlank c = true) :
    BlankRun (g ++ w) := by
  refine ⟨by simp [hg.1], fun c hc => ?_⟩
  rcases List.mem_append.mp hc with hc | hc
  · exact hg.2 c hc
  · exact hw c hc

/-- `k` spells the keyword phrase with words `ws`: the words spelled case-blind, with a run of
blanks between each two. -/
inductive SpellsPhrase : List (List Char) → List Char → Prop
  | one {w s : List Char} : Spells w s → SpellsPhrase [w] s
  | cons {w s g r : List Char} {ws : List (List Char)} :
      Spells w s → BlankRun g → SpellsPhrase ws r → SpellsPhrase (w :: ws) (s ++ g ++ r)

/-- A keyword may open right after `u`: `u` is empty or ends in a blank. -/
def OpensAfter (u : List Char) : Prop := ∀ c ∈ u.getLast?, Text.isBlank c = true

/-- A phrase whose spellings are solid: it has words, and each word has letters, none of
them blank. -/
def Solid (ws : List (List Char)) : Prop :=
  ws ≠ [] ∧ ∀ w ∈ ws, w ≠ [] ∧ ∀ k ∈ w, Text.isBlank k = false

theorem solid_iff_all {ws : List (List Char)} :
    Solid ws ↔ (!ws.isEmpty && ws.all fun w => !w.isEmpty && w.all fun k => !Text.isBlank k) = true := by
  simp [Solid]

instance : DecidablePred Solid := fun _ => decidable_of_iff _ solid_iff_all.symm

/-- A spelling of a word with no blank letter has no blank. -/
theorem Spells.not_blank {w s : List Char} (hs : Spells w s)
    (hw : ∀ k ∈ w, Text.isBlank k = false) : ∀ c ∈ s, Text.isBlank c = false := by
  induction hs with
  | nil => simp
  | cons hkc _ ih =>
    intro c hc
    rcases List.mem_cons.mp hc with rfl | hc
    · cases hb : Text.isBlank c
      · rfl
      · have := hw _ List.mem_cons_self
        rw [isBlank_of_spells hkc hb] at this
        cases this
    · exact ih (fun k hk => hw k (List.mem_cons_of_mem _ hk)) c hc

theorem Spells.reverse {w s : List Char} (hs : Spells w s) : Spells w.reverse s.reverse :=
  List.forall₂_reverse_iff.mpr hs

theorem not_spellsPhrase_nil {k : List Char} : ¬ SpellsPhrase [] k := by
  intro h
  cases h

theorem spellsPhrase_singleton_iff {w k : List Char} : SpellsPhrase [w] k ↔ Spells w k := by
  constructor
  · intro h
    cases h with
    | one hs => exact hs
    | cons _ _ hr => exact absurd hr not_spellsPhrase_nil
  · exact .one

theorem spellsPhrase_cons_cons_iff {w w' k : List Char} {ws : List (List Char)} :
    SpellsPhrase (w :: w' :: ws) k ↔
      ∃ s g r, k = s ++ g ++ r ∧ Spells w s ∧ BlankRun g ∧ SpellsPhrase (w' :: ws) r := by
  constructor
  · intro h
    cases h with
    | cons hs hg hr => exact ⟨_, _, _, rfl, hs, hg, hr⟩
  · rintro ⟨s, g, r, rfl, hs, hg, hr⟩
    exact .cons hs hg hr

/-- Two spelled phrases with a run of blanks between them spell the joined phrase. -/
theorem SpellsPhrase.append {ws₁ ws₂ : List (List Char)} {k₁ g k₂ : List Char}
    (h₁ : SpellsPhrase ws₁ k₁) (hg : BlankRun g) (h₂ : SpellsPhrase ws₂ k₂) :
    SpellsPhrase (ws₁ ++ ws₂) (k₁ ++ g ++ k₂) := by
  induction h₁ with
  | one hs => exact .cons hs hg h₂
  | @cons w s g' r ws hs hg' _ ih =>
    have hk : s ++ g' ++ r ++ g ++ k₂ = s ++ g' ++ (r ++ g ++ k₂) := by simp
    rw [List.cons_append, hk]
    exact .cons hs hg' ih

theorem BlankRun.reverse {g : List Char} (hg : BlankRun g) : BlankRun g.reverse :=
  ⟨by simpa using hg.1, fun c hc => hg.2 c (List.mem_reverse.mp hc)⟩

/-- **A phrase read backwards**: the reversed text spells the reversed words in reverse
order. -/
theorem SpellsPhrase.reverse {ws : List (List Char)} {k : List Char} (h : SpellsPhrase ws k) :
    SpellsPhrase (ws.reverse.map List.reverse) k.reverse := by
  induction h with
  | one hs => exact .one hs.reverse
  | cons hs hg _ ih => simpa using ih.append hg.reverse (.one hs.reverse)

theorem spellsPhrase_reverse_iff {ws : List (List Char)} {k : List Char} :
    SpellsPhrase (ws.reverse.map List.reverse) k ↔ SpellsPhrase ws k.reverse := by
  constructor
  · intro h
    simpa [Function.comp_def] using h.reverse
  · intro h
    simpa using h.reverse

theorem Solid.reverse {ws : List (List Char)} (h : Solid ws) :
    Solid (ws.reverse.map List.reverse) := by
  refine ⟨by simpa using h.1, fun w hw => ?_⟩
  obtain ⟨w', hw', rfl⟩ := List.mem_map.mp hw
  obtain ⟨hne, hk⟩ := h.2 w' (List.mem_reverse.mp hw')
  exact ⟨by simpa using hne, fun k hk' => hk k (List.mem_reverse.mp hk')⟩

/-- A spelling of a solid phrase starts with a character that is not blank. -/
theorem SpellsPhrase.head_not_blank {ws : List (List Char)} {k : List Char}
    (h : SpellsPhrase ws k) (hws : Solid ws) : ∃ c rest, k = c :: rest ∧ Text.isBlank c = false := by
  -- the spelling starts with the spelling of the first word, which has a first letter
  obtain ⟨w, s, rest, hk, hs, hw⟩ : ∃ w s rest, k = s ++ rest ∧ Spells w s ∧ w ∈ ws := by
    cases h with
    | one hs => exact ⟨_, _, [], by simp, hs, List.mem_singleton_self _⟩
    | @cons w s g r ws hs _ _ => exact ⟨w, s, g ++ r, by simp, hs, List.mem_cons_self⟩
  obtain ⟨hne, hletters⟩ := hws.2 w hw
  obtain ⟨c, s', rfl⟩ : ∃ c s', s = c :: s' := by
    cases s with
    | nil => exact absurd (List.forall₂_nil_right_iff.mp hs) hne
    | cons c s' => exact ⟨c, s', rfl⟩
  exact ⟨c, s' ++ rest, by simp [hk], hs.not_blank hletters c List.mem_cons_self⟩

/-! ## Reading a phrase off the head of a text -/

/-- **Matching a word takes off exactly a spelling of it.** -/
theorem dropWord_eq_some_iff {w cs r : List Char} :
    dropWord w cs = some r ↔ ∃ s, Spells w s ∧ cs = s ++ r := by
  induction w generalizing cs with
  | nil =>
    simp only [dropWord, Option.some.injEq, Spells, List.forall₂_nil_left_iff, exists_eq_left,
      List.nil_append]
  | cons k w ih =>
    cases cs with
    | nil => simp [dropWord, Spells]
    | cons c cs =>
      simp only [dropWord]
      split
      · next hk =>
        rw [ih]
        constructor
        · rintro ⟨s, hs, rfl⟩
          exact ⟨c :: s, List.Forall₂.cons hk hs, rfl⟩
        · rintro ⟨_ | ⟨c', s⟩, hs, he⟩
          · cases hs
          · obtain ⟨-, hs⟩ := List.forall₂_cons.mp hs
            simp only [List.cons_append, List.cons.injEq] at he
            exact ⟨s, hs, he.2⟩
      · next hk =>
        simp only [reduceCtorEq, false_iff]
        rintro ⟨_ | ⟨c', s⟩, hs, he⟩
        · cases hs
        · obtain ⟨hkc, -⟩ := List.forall₂_cons.mp hs
          simp only [List.cons_append, List.cons.injEq] at he
          exact hk (he.1 ▸ hkc)

/-- **Dropping blanks takes off a whole run of them**, up to a character that is not blank. -/
theorem dropBlanks_eq_some_iff {cs r : List Char} :
    dropBlanks cs = some r ↔
      ∃ g, BlankRun g ∧ cs = g ++ r ∧ ∀ c ∈ r.head?, Text.isBlank c = false := by
  constructor
  · intro h
    cases cs with
    | nil => cases h
    | cons c cs =>
      simp only [dropBlanks] at h
      split at h
      · next hc =>
        cases h
        refine ⟨(c :: cs).takeWhile Text.isBlank, ⟨by simp [hc], fun d hd => ?_⟩,
          List.takeWhile_append_dropWhile.symm, fun d hd => ?_⟩
        · exact List.mem_takeWhile_imp hd
        · have := List.head?_dropWhile_not Text.isBlank (c :: cs)
          rw [hd] at this
          exact this
      · cases h
  · rintro ⟨_ | ⟨c, g⟩, ⟨hne, hg⟩, rfl, hr⟩
    · exact absurd rfl hne
    have hc : Text.isBlank c = true := hg c List.mem_cons_self
    simp only [List.cons_append, dropBlanks, hc, if_true, Option.some.injEq]
    rw [← List.cons_append, List.dropWhile_append_of_pos hg]
    cases r with
    | nil => rfl
    | cons d r => simpa using hr d rfl

/-- **Matching a phrase takes off exactly a spelling of it**, when its spellings are solid. -/
theorem dropPhrase_eq_some_iff {ws : List (List Char)} (hws : Solid ws) {cs r : List Char} :
    dropPhrase ws cs = some r ↔ ∃ k, SpellsPhrase ws k ∧ cs = k ++ r := by
  induction ws generalizing cs with
  | nil => exact absurd rfl hws.1
  | cons w ws ih =>
    cases ws with
    | nil =>
      simp only [dropPhrase, dropWord_eq_some_iff, spellsPhrase_singleton_iff]
    | cons w' ws =>
      have hrest : Solid (w' :: ws) :=
        ⟨List.cons_ne_nil _ _, fun v hv => hws.2 v (List.mem_cons_of_mem _ hv)⟩
      simp only [dropPhrase]
      constructor
      · intro h
        split at h
        · next r₁ h₁ =>
          split at h
          · next r₂ h₂ =>
            obtain ⟨s, hs, rfl⟩ := dropWord_eq_some_iff.mp h₁
            obtain ⟨g, hg, rfl, -⟩ := dropBlanks_eq_some_iff.mp h₂
            obtain ⟨k, hk, rfl⟩ := (ih hrest).mp h
            exact ⟨s ++ g ++ k, .cons hs hg hk, by simp⟩
          · cases h
        · cases h
      · rintro ⟨_, hk, rfl⟩
        obtain ⟨s, g, k, rfl, hs, hg, hk⟩ := spellsPhrase_cons_cons_iff.mp hk
        -- the next word starts with a character that is not blank, which ends the run
        obtain ⟨c, rest, hck, hc⟩ := hk.head_not_blank hrest
        have h₁ : dropWord w (s ++ g ++ k ++ r) = some (g ++ (k ++ r)) :=
          dropWord_eq_some_iff.mpr ⟨s, hs, by simp⟩
        have h₂ : dropBlanks (g ++ (k ++ r)) = some (k ++ r) :=
          dropBlanks_eq_some_iff.mpr ⟨g, hg, rfl, by simp [hck, hc]⟩
        simp only [h₁, h₂]
        exact (ih hrest).mpr ⟨k, hk, rfl⟩

end SqlAssist.Word

namespace SqlAssist.Cursor

open Word

/-! ## A keyword at the end of a text -/

/-- The text `e` ends with a spelling of the keyword phrase `p` that opens the text or follows
a blank. -/
def PhraseAtEnd (p : String) (e : List Char) : Prop :=
  ∃ u k, e = u ++ k ∧ OpensAfter u ∧ SpellsPhrase (phraseWords p) k

/-- The text `e` ends with the keyword phrase `p`: the phrase alone (only when it may stand
`optional`ly so), or the phrase, a run of blanks and a word of loose characters. -/
def KeywordAtEnd (p : String) (optional : Bool) (e : List Char) : Prop :=
  (optional = true ∧ PhraseAtEnd p e) ∨
    ∃ e' g y, e = e' ++ g ++ y ∧ PhraseAtEnd p e' ∧ BlankRun g ∧ ∀ c ∈ y, isLoose c = true

theorem opensAfterBlank_reverse {u : List Char} :
    opensAfterBlank u.reverse = true ↔ OpensAfter u := by
  rw [OpensAfter, ← List.head?_reverse]
  cases u.reverse with
  | nil => simp [opensAfterBlank]
  | cons c rest => simp [opensAfterBlank]

/-- The texts whose end counts as the end: the text, and the text before one final line
feed. -/
theorem mem_endings {cs e : List Char} : e ∈ endings cs ↔ e = cs ∨ cs = e ++ ['\n'] := by
  unfold endings
  split
  · next h =>
    have hne : cs ≠ [] := by rintro rfl; cases h
    have hcs : cs = cs.dropLast ++ ['\n'] := by
      rw [List.getLast?_eq_some_getLast hne, Option.some.injEq] at h
      rw [← h, List.dropLast_concat_getLast]
    simp only [List.mem_cons, List.not_mem_nil, or_false]
    constructor
    · rintro (rfl | rfl)
      · exact .inl rfl
      · exact .inr hcs
    · rintro (rfl | he)
      · exact .inl rfl
      · exact .inr (by rw [he, List.dropLast_concat])
  · next h =>
    rw [List.mem_singleton]
    refine ⟨.inl, ?_⟩
    rintro (he | he)
    · exact he
    · rw [he] at h
      simp at h

variable {p : String}

/-- Read backwards, a text that ends with the spelled phrase after an opening loses the
phrase and keeps the opening. -/
theorem dropPhrase_reversed (hp : Solid (phraseWords p)) {r u k : List Char}
    (hr : r.reverse = u ++ k) (hk : SpellsPhrase (phraseWords p) k) :
    dropPhrase (reversedPhrase p) r = some u.reverse := by
  refine (dropPhrase_eq_some_iff hp.reverse).mpr ⟨k.reverse, ?_, ?_⟩
  · exact spellsPhrase_reverse_iff.mpr (by rwa [List.reverse_reverse])
  · rw [← List.reverse_reverse r, hr, List.reverse_append]

/-- **The phrase alone at the end**: the backward reading accepts exactly the texts that
end with a spelling of the phrase after an opening. -/
theorem endsWithPhrase_true_iff (hp : Solid (phraseWords p)) {r : List Char} :
    endsWithPhrase p true r = true ↔ PhraseAtEnd p r.reverse := by
  simp only [endsWithPhrase, if_true]
  cases h : dropPhrase (reversedPhrase p) r with
  | none =>
    simp only [Bool.false_eq_true, false_iff]
    rintro ⟨u, k, hr, -, hk⟩
    rw [dropPhrase_reversed hp hr hk] at h
    cases h
  | some b =>
    obtain ⟨k', hk', hr⟩ := (dropPhrase_eq_some_iff hp.reverse).mp h
    rw [spellsPhrase_reverse_iff] at hk'
    simp only
    rw [← List.reverse_reverse b, opensAfterBlank_reverse]
    constructor
    · intro hb
      exact ⟨b.reverse, k'.reverse, by simp [hr], hb, hk'⟩
    · -- the phrase read off is unique, so the opening is what the reading left
      rintro ⟨u, k, hu, hopen, hk⟩
      rw [dropPhrase_reversed hp hu hk, Option.some.injEq] at h
      rwa [← h, List.reverse_reverse]

/-- Read backwards, a text that ends with the phrase, blanks and a loose word loses the word
and the blanks whole and stops at the phrase. -/
theorem dropBlanks_dropWhile_isLoose (hp : Solid (phraseWords p)) {r e g y : List Char}
    (hr : r.reverse = e ++ g ++ y) (he : PhraseAtEnd p e) (hg : BlankRun g)
    (hy : ∀ c ∈ y, isLoose c = true) :
    dropBlanks (r.dropWhile isLoose) = some e.reverse := by
  obtain ⟨u, k, rfl, -, hk⟩ := he
  have hr' : r = y.reverse ++ (g.reverse ++ (k.reverse ++ u.reverse)) := by
    rw [← List.reverse_reverse r, hr]
    simp
  obtain ⟨c, g', hcg⟩ : ∃ c g', g.reverse = c :: g' := by
    cases h : g.reverse with
    | nil => exact absurd (List.reverse_eq_nil_iff.mp h) hg.1
    | cons c g' => exact ⟨c, g', rfl⟩
  have hc : isLoose c = false := by
    cases hl : isLoose c
    · rfl
    · have hb := hg.2 c (List.mem_reverse.mp (hcg ▸ List.mem_cons_self))
      rw [isBlank_of_isLoose hl] at hb
      cases hb
  have hdrop : r.dropWhile isLoose = g.reverse ++ (k.reverse ++ u.reverse) := by
    rw [hr', List.dropWhile_append_of_pos fun a ha => hy a (List.mem_reverse.mp ha), hcg,
      List.cons_append, List.dropWhile_cons_of_neg (by simp [hc])]
  -- the phrase read backwards starts with a character that is not blank
  obtain ⟨d, rest, hdk, hd⟩ := (hk.reverse).head_not_blank hp.reverse
  rw [hdrop, List.reverse_append]
  exact dropBlanks_eq_some_iff.mpr ⟨g.reverse, hg.reverse, rfl, by simp [hdk, hd]⟩

/-- **The phrase with a loose word after it**: the backward reading accepts exactly the texts
that end with a spelling of the phrase after an opening, a run of blanks and a loose word. -/
theorem endsWithPhrase_false_iff (hp : Solid (phraseWords p)) {r : List Char} :
    endsWithPhrase p false r = true ↔
      ∃ e g y, r.reverse = e ++ g ++ y ∧ PhraseAtEnd p e ∧ BlankRun g ∧
        ∀ c ∈ y, isLoose c = true := by
  simp only [endsWithPhrase, Bool.false_eq_true, if_false]
  cases h : dropBlanks (r.dropWhile isLoose) with
  | none =>
    simp only [Bool.false_eq_true, false_iff]
    rintro ⟨e, g, y, hr, he, hg, hy⟩
    rw [dropBlanks_dropWhile_isLoose hp hr he hg hy] at h
    cases h
  | some r' =>
    change endsWithPhrase p true r' = true ↔ _
    rw [endsWithPhrase_true_iff hp]
    constructor
    · intro he
      obtain ⟨g, hg, hdrop, -⟩ := dropBlanks_eq_some_iff.mp h
      refine ⟨r'.reverse, g.reverse, (r.takeWhile isLoose).reverse, ?_, he, hg.reverse,
        fun c hc => List.mem_takeWhile_imp (List.mem_reverse.mp hc)⟩
      calc r.reverse = (r.takeWhile isLoose ++ r.dropWhile isLoose).reverse := by
            rw [List.takeWhile_append_dropWhile]
        _ = r'.reverse ++ g.reverse ++ (r.takeWhile isLoose).reverse := by
            rw [hdrop]
            simp
    · rintro ⟨e, g, y, hr, he, hg, hy⟩
      rw [dropBlanks_dropWhile_isLoose hp hr he hg hy, Option.some.injEq] at h
      rwa [← h, List.reverse_reverse]

/-- **The reader's test is the grammar**: a keyword phrase with solid spellings ends a text,
as the reader decides it, exactly when it ends the text or the text before one final line
feed. -/
theorem endsWithKeyword_iff (hp : Solid (phraseWords p)) {optional : Bool} {text : List Char} :
    endsWithKeyword p optional text = true ↔
      ∃ e, (e = text ∨ text = e ++ ['\n']) ∧ KeywordAtEnd p optional e := by
  simp only [endsWithKeyword, List.any_eq_true, mem_endings, Bool.or_eq_true, Bool.and_eq_true,
    endsWithPhrase_true_iff hp, endsWithPhrase_false_iff hp, List.reverse_reverse,
    KeywordAtEnd]

/-- No letter of a table keyword is blank. -/
theorem solid_tableKeywords : ∀ p ∈ tableKeywords, Solid (phraseWords p) := by
  decide +kernel

/-- **Where a table name is expected**: exactly where a table keyword phrase ends the text,
or the text before one final line feed, alone or followed by blanks and a loose word. -/
theorem afterTableKeyword_iff {text : List Char} :
    afterTableKeyword text = true ↔
      ∃ p ∈ tableKeywords, ∃ e, (e = text ∨ text = e ++ ['\n']) ∧ KeywordAtEnd p true e := by
  simp only [afterTableKeyword, List.any_eq_true]
  constructor
  · rintro ⟨p, hp, h⟩
    exact ⟨p, hp, (endsWithKeyword_iff (solid_tableKeywords p hp)).mp h⟩
  · rintro ⟨p, hp, h⟩
    exact ⟨p, hp, (endsWithKeyword_iff (solid_tableKeywords p hp)).mpr h⟩

end SqlAssist.Cursor
