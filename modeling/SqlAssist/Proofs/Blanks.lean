import SqlAssist.Proofs.Indistinct

/-!
# One blank for another

The cursor reader and the alias scan test a blank only as a blank: a keyword and its partial
word are separated by any run of blanks, a qualifier must follow one, a binding's parts are
separated by runs of them.  So replacing blanks by other blanks in the statement changes no
binding, and in the line it changes no context, with one exception: a line feed.  "At the end
of the text" admits one final line feed, so a line feed that ends the text, or ends the text
before a qualified name's blank, reads as the end where a space does not.  `FROM x` and a line
feed expect a table name (the line feed ends the keyword context), while `FROM x` and a space
expect a keyword.

## Main statements

* `bindings_blankBlind`: statements that differ by blanks bind the same aliases.
* `parse_blankBlind`: lines that differ by blanks other than line feeds, up to the cursor,
  and statements that differ by any blanks give the same context.
* `parse_sees_lineFeed`: two lines where one blank for another changes the context, both by
  trading a line feed for a space.
-/

namespace SqlAssist

open Word Alias Cursor

/-! ## Blanks as a class -/

/-- The 29 blank code points. -/
def blankCodes : List Nat :=
  List.range' 9 5 ++ List.range' 0x1C 5 ++ [0x85, 0xA0, 0x1680] ++ List.range' 0x2000 11 ++
    [0x2028, 0x2029, 0x202F, 0x205F, 0x3000]

theorem mem_blankCodes {c : Char} (h : Text.isBlank c = true) : c.toNat ∈ blankCodes := by
  simp only [Text.isBlank, decide_eq_true_eq] at h
  simp only [blankCodes, List.mem_append, List.mem_range'_1, List.mem_cons, List.not_mem_nil,
    or_false]
  omega

/-- A function constant on the blank code points is constant on every blank. -/
theorem apply_of_isBlank {β : Type} {F : Char → β} {v : β}
    (hF : ∀ n ∈ blankCodes, F (Char.ofNat n) = v) {c : Char} (h : Text.isBlank c = true) :
    F c = v := by
  rw [← Char.ofNat_toNat c]
  exact hF _ (mem_blankCodes h)

/-- Two characters that are equal, or two blanks neither of which is `fixed`. -/
def BlankSwap (fixed : Char → Bool) (a b : Char) : Prop :=
  a = b ∨ (Text.isBlank a = true ∧ Text.isBlank b = true ∧ fixed a = false ∧ fixed b = false)

instance (fixed : Char → Bool) : DecidableRel (BlankSwap fixed) := fun _ _ =>
  inferInstanceAs (Decidable (_ ∨ _))

/-- Related lists, checked pair by pair. -/
instance instDecidableForall₂ {α β : Type} {R : α → β → Prop} [DecidableRel R] :
    ∀ s t, Decidable (List.Forall₂ R s t)
  | [], [] => isTrue .nil
  | [], _ :: _ => isFalse nofun
  | _ :: _, [] => isFalse nofun
  | _ :: s, _ :: t =>
    @decidable_of_iff _ _ List.forall₂_cons.symm (@instDecidableAnd _ _ _ (instDecidableForall₂ s t))

variable {fixed : Char → Bool}

/-- What every blank answers alike is answered alike by swapped characters. -/
theorem BlankSwap.congr {β : Type} {F : Char → β} {v : β}
    (hF : ∀ n ∈ blankCodes, F (Char.ofNat n) = v) {a b : Char} (h : BlankSwap fixed a b) :
    F a = F b := by
  rcases h with rfl | ⟨ha, hb, -, -⟩
  · rfl
  · rw [apply_of_isBlank hF ha, apply_of_isBlank hF hb]

/-- A character of class `p`, which no blank is in, is swapped only with itself. -/
theorem BlankSwap.eq_of_class {p : Char → Bool} (hp : ∀ n ∈ blankCodes, p (Char.ofNat n) = false)
    {a b : Char} (h : BlankSwap fixed a b) (ha : p a = true) : a = b := by
  rcases h with rfl | ⟨hblank, -, -, -⟩
  · rfl
  · exact absurd (apply_of_isBlank hp hblank) (by rw [ha]; decide)

/-- What the reader's tests say of the blank code points: each is plain to none of them, is a
blank, and is neither loose, a word boundary, a reference character, a dot nor a comma.  The
kernel checks all of it at once. -/
theorem blankCodes_classes :
    (∀ n ∈ blankCodes, isPlain (Char.ofNat n) = false) ∧
      (∀ n ∈ blankCodes, Text.isBlank (Char.ofNat n) = true) ∧
      (∀ n ∈ blankCodes, isLoose (Char.ofNat n) = false) ∧
      (∀ n ∈ blankCodes, isBoundaryWord (Char.ofNat n) = false) ∧
      (∀ n ∈ blankCodes, isReferenceChar (Char.ofNat n) = false) ∧
      (∀ n ∈ blankCodes, decide (Char.ofNat n = '.') = false) ∧
      (∀ n ∈ blankCodes, decide (Char.ofNat n = ',') = false) := by
  decide +kernel

/-- **Swapping blanks is invisible to the alias scan.** -/
theorem blankSwap_indistinct : Indistinct (BlankSwap fixed) := by
  obtain ⟨hplain, hblank, hloose, hboundary, hreference, hdot, -⟩ := blankCodes_classes
  refine ⟨fun h => h.congr hplain, fun h => h.congr hloose, fun h => h.congr hblank,
    fun h => h.congr hboundary, fun hk h => ?_,
    fun h => decide_eq_decide.mp (h.congr (F := fun c => decide (c = '.')) hdot),
    fun h ha => congrArg _ (h.eq_of_class hreference ha),
    fun h ha => congrArg _ (h.eq_of_class hloose ha)⟩
  rcases h with rfl | ⟨ha, hb, -, -⟩
  · rfl
  · -- a blank spells only a blank letter, and no keyword letter is blank
    have hnot : ∀ {c : Char}, Text.isBlank c = true → spells _ c = false := fun hc =>
      Bool.eq_false_iff.mpr fun hs => absurd (isBlank_of_spells hs hc) (by rw [hk]; decide)
    rw [hnot ha, hnot hb]

/-- **Swapping blanks other than line feeds is invisible to the cursor reader.** -/
theorem blankSwap_lineIndistinct : LineIndistinct (BlankSwap (· == '\n')) where
  toIndistinct := blankSwap_indistinct
  lineFeed h := by
    rcases h with rfl | ⟨-, -, ha, hb⟩
    · rfl
    · simp only [beq_eq_false_iff_ne, ne_eq] at ha hb
      exact iff_of_false ha hb
  comma h := decide_eq_decide.mp
    (h.congr (F := fun c => decide (c = ',')) blankCodes_classes.2.2.2.2.2.2)

/-- **Statements that differ by blanks bind the same aliases.** -/
theorem bindings_blankBlind {text text' : String}
    (h : List.Forall₂ (BlankSwap fun _ => false) text.toList text'.toList) :
    bindings text' = bindings text :=
  (bindings_indistinct blankSwap_indistinct h).symm

/-! ## Contexts -/

/-- Words of a class no blank is in are related by swapping blanks only when equal. -/
theorem AlikeIn.eq_of_blankSwap {p : Char → Bool} (hp : ∀ n ∈ blankCodes, p (Char.ofNat n) = false)
    {s t : String} (h : AlikeIn p (BlankSwap fixed) s t) : s = t := by
  rw [← String.toList_inj, ← List.forall₂_eq_eq_eq]
  exact h.imp fun _ _ hab => hab.1.eq_of_class hp hab.2

theorem optionRel_eq_of_blankSwap {x y : Option String}
    (h : Option.Rel (AlikeIn isPlain (BlankSwap fixed)) x y) : x = y := by
  cases h with
  | none => rfl
  | some hs => rw [hs.eq_of_blankSwap blankCodes_classes.1]

/-- Contexts alike up to swapped blanks are equal: their words are plain. -/
theorem Cursor.Context.Alike.eq_of_blankSwap {c c' : Context}
    (h : Context.Alike (BlankSwap fixed) c c') : c = c' := by
  have hnames : c.database = c'.database ∧ c.table = c'.table := by
    by_cases hv : c.viaAlias = none
    · exact ⟨optionRel_eq_of_blankSwap (h.named hv).1, optionRel_eq_of_blankSwap (h.named hv).2⟩
    · exact h.resolved hv
  obtain ⟨expect, word, database, table, viaAlias⟩ := c
  obtain ⟨expect', word', database', table', viaAlias'⟩ := c'
  simp only [Context.mk.injEq]
  exact ⟨h.expect, h.word.eq_of_blankSwap blankCodes_classes.1, hnames.1, hnames.2,
    optionRel_eq_of_blankSwap h.viaAlias⟩

/-- **Blanks swapped in the line, other than line feeds, and any blanks swapped in the
statement leave the context as it is.** -/
theorem parse_blankBlind (line line' : String) (cursor : Int) (query query' : Option String)
    (hl : List.Forall₂ (BlankSwap (· == '\n')) (line.toList.take cursor.toNat)
      (line'.toList.take cursor.toNat))
    (hq : Option.Rel (fun s t : String => List.Forall₂ (BlankSwap fun _ => false) s.toList t.toList)
      query query') :
    parse line' cursor query' = parse line cursor query :=
  (parse_indistinct blankSwap_lineIndistinct blankSwap_indistinct hl hq).eq_of_blankSwap.symm

theorem parse_blankBlind_tab :
    (List.Forall₂ (BlankSwap (· == '\n')) ("SELECT a,\tb".toList.take 11)
        ("SELECT a, b".toList.take 11) ∧
      Option.Rel (fun s t : String => List.Forall₂ (BlankSwap fun _ => false) s.toList t.toList)
        (some "SELECT a FROM t\nu") (some "SELECT a FROM t u")) ∧
    parse "SELECT a, b" 11 (some "SELECT a FROM t u") =
      parse "SELECT a,\tb" 11 (some "SELECT a FROM t\nu") :=
  have hl : List.Forall₂ (BlankSwap (· == '\n')) ("SELECT a,\tb".toList.take 11)
      ("SELECT a, b".toList.take 11) := by decide +kernel
  have hq : Option.Rel (fun s t : String => List.Forall₂ (BlankSwap fun _ => false) s.toList t.toList)
      (some "SELECT a FROM t\nu") (some "SELECT a FROM t u") := .some (by decide +kernel)
  ⟨⟨hl, hq⟩, parse_blankBlind _ _ _ _ _ hl hq⟩

/-- A line feed is not a blank like the others: ending the text, or ending it before a
qualified name's blank, it ends a keyword context where a space does not. -/
theorem parse_sees_lineFeed :
    (List.Forall₂ (BlankSwap fun _ => false) ("FROM x\n".toList.take 7) ("FROM x ".toList.take 7) ∧
      parse "FROM x\n" 7 none = { expect := .table, word := "x" } ∧
      parse "FROM x " 7 none = { expect := .keyword }) ∧
    (List.Forall₂ (BlankSwap fun _ => false) ("FROM ab\n shop.t".toList.take 15)
        ("FROM ab  shop.t".toList.take 15) ∧
      parse "FROM ab\n shop.t" 15 none = { expect := .table, word := "t", database := some "shop" } ∧
      parse "FROM ab  shop.t" 15 none = { expect := .column, word := "t", table := some "shop" }) := by
  refine ⟨⟨?_, ?_, ?_⟩, ?_, ?_, ?_⟩ <;> decide +kernel

end SqlAssist
