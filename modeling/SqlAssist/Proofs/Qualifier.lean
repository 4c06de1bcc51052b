import SqlAssist.Proofs.CursorWord
import SqlAssist.Proofs.Keywords

/-!
# A qualifier before the dot

When the text before the cursor ends in a qualified name `q.p`, `Cursor.parse` first tries `q`
as an alias of the surrounding statement.  Failing that, it reads `q` as a database when a
blank stands right before `q` and a table keyword ends the text before that blank, and as a
table otherwise.

The keyword test it reuses is the one for a table name being typed, which admits a loose word
after the keyword.  So `q` is read as a database not only right after a table keyword and a
run of blanks (`KeywordThenBlanks`) but also after a keyword, blanks, a word and one more
blank, with at most a line feed between word and blank (`KeywordThenWord`): in
`FROM users u.` the `u` names a database (`qualifier_after_table_name`).

## Main statements

* `qualifiedTail_split`: the qualified name ending the text, read off its parts.
* `databaseSlot_iff`: the test on the text before the qualifier, as a grammar.
* `parse_qualified`: the context of a qualified name that names no alias.
-/

namespace SqlAssist.Cursor

open Word

/-- The text before a qualifier ends with a table keyword and a run of blanks, so that the
qualifier directly follows the keyword. -/
def KeywordThenBlanks (pre : List Char) : Prop :=
  ∃ p ∈ tableKeywords, ∃ e w, pre = e ++ w ∧ PhraseAtEnd p e ∧ BlankRun w

/-- The text before a qualifier ends with a table keyword, a run of blanks, a word of loose
characters and one blank, with at most a line feed between the word and the blank. -/
def KeywordThenWord (pre : List Char) : Prop :=
  ∃ p ∈ tableKeywords, ∃ e g y b, PhraseAtEnd p e ∧ BlankRun g ∧ y ≠ [] ∧
    (∀ c ∈ y, isLoose c = true) ∧ Text.isBlank b = true ∧
    (pre = e ++ g ++ y ++ [b] ∨ pre = e ++ g ++ y ++ ['\n', b])

/-- The keyword and the blanks are found by trying each table keyword and each place where
the blanks may start. -/
theorem keywordThenBlanks_iff {pre : List Char} :
    KeywordThenBlanks pre ↔ ∃ p ∈ tableKeywords, ∃ i ∈ List.range (pre.length + 1),
      endsWithPhrase p true (pre.take i).reverse = true ∧ BlankRun (pre.drop i) := by
  constructor
  · rintro ⟨p, hp, e, w, rfl, he, hw⟩
    refine ⟨p, hp, e.length, by simp, ?_, by simpa using hw⟩
    rw [endsWithPhrase_true_iff (solid_tableKeywords p hp)]
    simpa using he
  · rintro ⟨p, hp, i, -, he, hw⟩
    rw [endsWithPhrase_true_iff (solid_tableKeywords p hp), List.reverse_reverse] at he
    exact ⟨p, hp, pre.take i, pre.drop i, (List.take_append_drop i pre).symm, he, hw⟩

instance : DecidablePred KeywordThenBlanks := fun _ =>
  decidable_of_iff _ keywordThenBlanks_iff.symm

/-- **The qualified name ending a text**, read off its parts: after a text that does not end
in a word character, a nonempty plain qualifier, a dot and a plain word. -/
theorem qualifiedTail_split {pre q p : List Char} (hq : q ≠ [])
    (hqw : ∀ c ∈ q, isPlain c = true) (hpw : ∀ c ∈ p, isPlain c = true)
    (hpre : ∀ c ∈ pre.getLast?, isPlain c = false) :
    qualifiedTail (pre ++ q ++ '.' :: p) = some (String.ofList q, String.ofList p, pre.length) := by
  have hdot : isPlain '.' = false := by decide
  -- the word is `p`, stopped by the dot, and the qualifier is `q`, stopped by `pre`
  have hword : trailingPlain (pre ++ q ++ '.' :: p) = p :=
    plainTail_iff.mp ⟨pre ++ q ++ ['.'], by simp, hpw, by simp [hdot]⟩
  have hqual : (q.reverse ++ pre.reverse).takeWhile isPlain = q.reverse := by
    have h := plainTail_iff.mp ⟨pre, rfl, hqw, hpre⟩
    rw [trailingPlain, List.reverse_append, List.reverse_eq_iff] at h
    exact h
  -- the text ends in the dot or in a letter of `p`, not in a line feed
  have hlast : (pre ++ q ++ '.' :: p).getLast? ≠ some '\n' := by
    rcases p.eq_nil_or_concat' with rfl | ⟨p', c, rfl⟩
    · simp
    · have hc := hpw c (by simp)
      have hend : pre ++ q ++ '.' :: (p' ++ [c]) = (pre ++ q ++ '.' :: p') ++ [c] := by simp
      intro h
      rw [hend, List.getLast?_concat, Option.some.injEq] at h
      rw [h] at hc
      exact absurd hc (by decide)
  have htake : (pre ++ q ++ '.' :: p).take ((pre ++ q ++ '.' :: p).length - p.length) =
      pre ++ q ++ ['.'] := by
    have hsplit : pre ++ q ++ '.' :: p = (pre ++ q ++ ['.']) ++ p := by simp
    rw [hsplit, List.length_append, Nat.add_sub_cancel, List.take_left]
  have hrev : (pre ++ q ++ ['.']).reverse = '.' :: (q.reverse ++ pre.reverse) := by simp
  simp only [qualifiedTail, if_neg hlast, hword, htake, hrev, hqual, List.reverse_reverse,
    if_neg hq, Option.some.injEq, Prod.mk.injEq, true_and]
  simp
  omega

/-- The test `parse` makes on the text before a qualifier: it ends in a blank, and a table
keyword ends the text before that blank. -/
def qualifierSlot (pre : List Char) : Bool :=
  (pre.getLast?.map Text.isBlank).getD false && afterTableKeyword pre.dropLast

/-- The test, one blank at a time: a blank `b` ends the text, after a text `d` where a table
keyword ends. -/
theorem qualifierSlot_iff {pre : List Char} :
    qualifierSlot pre = true ↔
      ∃ d b, pre = d ++ [b] ∧ Text.isBlank b = true ∧ afterTableKeyword d = true := by
  rcases pre.eq_nil_or_concat' with rfl | ⟨d, b, rfl⟩
  · simp [qualifierSlot]
  · simp [qualifierSlot]

/-- What the keyword test leaves after the keyword, and the blank after it, is one of the two
shapes of a qualifier slot. -/
theorem slot_of_keywordAtEnd {p : String} (hp : p ∈ tableKeywords) {pre e w : List Char}
    (hpre : pre = e ++ w) (hw : BlankRun w) (hk : KeywordAtEnd p true e)
    (htail : ∃ b, Text.isBlank b = true ∧ (w = [b] ∨ w = ['\n', b])) :
    KeywordThenBlanks pre ∨ KeywordThenWord pre := by
  rcases hk with ⟨-, he⟩ | ⟨e', g, y, rfl, he', hg, hy⟩
  · exact .inl ⟨p, hp, e, w, hpre, he, hw⟩
  · cases y with
    | nil => exact .inl ⟨p, hp, e', g ++ w, by simp [hpre], he', hg.append hw.2⟩
    | cons c y =>
      obtain ⟨b, hb, hw'⟩ := htail
      refine .inr ⟨p, hp, e', g, c :: y, b, he', hg, List.cons_ne_nil _ _, hy, hb, ?_⟩
      rcases hw' with rfl | rfl
      · exact .inl hpre
      · exact .inr hpre

/-- **The qualifier slot as a grammar**: `parse` reads a qualifier as a database exactly
after a table keyword and blanks, or after a table keyword, blanks, a loose word and one
blank. -/
theorem databaseSlot_iff {pre : List Char} :
    qualifierSlot pre = true ↔ KeywordThenBlanks pre ∨ KeywordThenWord pre := by
  rw [qualifierSlot_iff]
  constructor
  · rintro ⟨d, b, rfl, hb, hd⟩
    obtain ⟨p, hp, e, hed, hk⟩ := afterTableKeyword_iff.mp hd
    have hnl : Text.isBlank '\n' = true := by decide
    -- the line feed the keyword test may skip joins the blank after it
    rcases hed with rfl | rfl
    · exact slot_of_keywordAtEnd hp rfl ⟨by simp, by simp [hb]⟩ hk ⟨b, hb, .inl rfl⟩
    · exact slot_of_keywordAtEnd hp (by simp) ⟨by simp, by simp [hb, hnl]⟩ hk
        ⟨b, hb, .inr rfl⟩
  · rintro (⟨p, hp, e, w, rfl, he, hw⟩ | ⟨p, hp, e, g, y, b, he, hg, -, hy, hb, hpre⟩)
    · rcases w.eq_nil_or_concat' with rfl | ⟨g, b, rfl⟩
      · exact absurd rfl hw.1
      refine ⟨e ++ g, b, by simp, hw.2 b (by simp), afterTableKeyword_iff.mpr ?_⟩
      refine ⟨p, hp, e ++ g, .inl rfl, ?_⟩
      -- the blanks before the last one are the keyword test's run, with no word after them
      cases g with
      | nil => exact .inl ⟨rfl, by simpa using he⟩
      | cons c g =>
        exact .inr ⟨e, c :: g, [], by simp, he,
          ⟨List.cons_ne_nil _ _, fun x hx => hw.2 x (List.mem_append_left [b] hx)⟩, by simp⟩
    · have hk : KeywordAtEnd p true (e ++ g ++ y) := .inr ⟨e, g, y, rfl, he, hg, hy⟩
      rcases hpre with rfl | rfl
      · exact ⟨e ++ g ++ y, b, rfl, hb, afterTableKeyword_iff.mpr ⟨p, hp, _, .inl rfl, hk⟩⟩
      · exact ⟨e ++ g ++ y ++ ['\n'], b, by simp, hb,
          afterTableKeyword_iff.mpr ⟨p, hp, _, .inr rfl, hk⟩⟩

/-- With no alias for the qualifier, `parse` of a qualified name is decided by the test on
the text before the qualifier. -/
theorem parse_qualified_eq {line : String} {cursor : Int} {query : Option String}
    {pre q p : List Char} (hbefore : line.toList.take cursor.toNat = pre ++ q ++ '.' :: p)
    (hq : q ≠ []) (hqw : ∀ c ∈ q, isPlain c = true) (hpw : ∀ c ∈ p, isPlain c = true)
    (hpre : ∀ c ∈ pre.getLast?, isPlain c = false)
    (halias : ∀ text ∈ query, text ≠ "" → Alias.resolve? (String.ofList q) text = none) :
    parse line cursor query =
      if qualifierSlot pre then ⟨.table, String.ofList p, some (String.ofList q), none, none⟩
      else ⟨.column, String.ofList p, none, some (String.ofList q), none⟩ := by
  have htake : (pre ++ q ++ '.' :: p).take pre.length = pre := by simp
  simp only [parse, hbefore, qualifiedTail_split hq hqw hpw hpre, htake]
  -- the alias lookup finds nothing: there is no statement, an empty one, or no alias `q`
  cases query with
  | none => rfl
  | some text =>
    by_cases ht : text = ""
    · subst ht
      rfl
    · have hne : text.isEmpty = false := by simpa [String.isEmpty_iff] using ht
      simp only [hne, halias text rfl ht]
      rfl

/-- **The context of a qualified name.**  When the text before the cursor ends in `q.p`, with
`q` a nonempty plain word that is no alias of the statement, `p` a plain word and the text
`pre` before `q` not ending in a word character, the context is tables of database `q`
exactly when `pre` ends in a table keyword and blanks, or in a table keyword, blanks, a loose
word and one blank; otherwise it is columns of table `q`.  Either way the word is `p`. -/
theorem parse_qualified (line : String) (cursor : Int) (query : Option String)
    (pre q p : List Char) (hbefore : line.toList.take cursor.toNat = pre ++ q ++ '.' :: p)
    (hq : q ≠ []) (hqw : ∀ c ∈ q, isPlain c = true) (hpw : ∀ c ∈ p, isPlain c = true)
    (hpre : ∀ c ∈ pre.getLast?, isPlain c = false)
    (halias : ∀ text ∈ query, text ≠ "" → Alias.resolve? (String.ofList q) text = none) :
    (KeywordThenBlanks pre ∨ KeywordThenWord pre →
        parse line cursor query = ⟨.table, String.ofList p, some (String.ofList q), none, none⟩) ∧
      (¬ (KeywordThenBlanks pre ∨ KeywordThenWord pre) →
        parse line cursor query = ⟨.column, String.ofList p, none, some (String.ofList q), none⟩) := by
  rw [parse_qualified_eq hbefore hq hqw hpw hpre halias, ← databaseSlot_iff]
  constructor
  · intro h
    rw [if_pos h]
  · intro h
    rw [if_neg h]

/-- `FROM shop.us`: the qualifier right after the keyword names a database. -/
theorem parse_qualified_from_shop :
    parse "FROM shop.us" 12 none =
      ⟨.table, String.ofList "us".toList, some (String.ofList "shop".toList), none, none⟩ :=
  (parse_qualified "FROM shop.us" 12 none "FROM ".toList "shop".toList "us".toList
    (by decide +kernel) (by decide +kernel) (List.all_eq_true.mp (by decide +kernel))
    (List.all_eq_true.mp (by decide +kernel)) (by simp [isPlain]) (by simp)).1
    (.inl (by decide +kernel))

/-- `FROM users u.`: the qualifier follows a table name, not the keyword, and is still read
as a database. -/
theorem qualifier_after_table_name :
    parse "FROM users u." 13 none = ⟨.table, "", some "u", none, none⟩ ∧
      ¬ KeywordThenBlanks "FROM users ".toList := by
  constructor
  · decide +kernel
  · decide +kernel

end SqlAssist.Cursor
