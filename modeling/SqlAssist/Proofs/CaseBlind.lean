import SqlAssist.Proofs.Indistinct

/-!
# Keyword recognition ignores ASCII case

Changing the case of ASCII letters, anywhere in the line or in the statement, changes nothing
the cursor reader decides.  The same kind of name is expected; the word typed so far, the
qualifier and the names read from the line are the same up to ASCII case; and a table and
database found through an alias are exactly the same, since the alias scan lowercases what
it binds and looks aliases up lowercased.

A case change relates characters with the same `Char.toLower`.  Each test of the reader, and
the lowercase and uppercase it takes of references and aliases, gives the same answer on an
uppercase ASCII letter and its lowercase partner: 26 checks (`apply_toLower`), which make the
relation indistinct to the reader (`caseIndistinct`).  `parse_indistinct` does the rest.

## Main statements

* `bindings_caseBlind`: statements that differ only in ASCII case bind the same aliases.
* `parse_caseBlind`: lines and statements that differ only in ASCII case give the same
  context up to ASCII case, with the same table and database found through an alias.
-/

namespace SqlAssist

open Word Alias Cursor

/-! ## ASCII case -/

/-- A character other than an uppercase ASCII letter is its own lowercase. -/
theorem toLower_eq_self {c : Char} (h : c.toNat < 65 ∨ 90 < c.toNat) : c.toLower = c := by
  unfold Char.toLower
  rw [dif_neg]
  rintro ⟨h1, h2⟩
  simp only [UInt32.le_iff_toNat_le] at h1 h2
  have hA : 'A'.val.toNat = 65 := rfl
  have hZ : 'Z'.val.toNat = 90 := rfl
  simp only [Char.toNat] at h
  omega

/-- A function that agrees on each uppercase ASCII letter and its lowercase agrees on every
character and its lowercase: the other characters are their own lowercase. -/
theorem apply_toLower {β : Type} {F : Char → β}
    (hF : ∀ n ∈ List.range' 65 26, F (Char.ofNat n).toLower = F (Char.ofNat n)) (c : Char) :
    F c.toLower = F c := by
  by_cases hc : 65 ≤ c.toNat ∧ c.toNat ≤ 90
  · rw [← Char.ofNat_toNat c]
    exact hF _ (List.mem_range'_1.mpr ⟨hc.1, by omega⟩)
  · rw [toLower_eq_self (by omega)]

theorem toLower_congr {β : Type} {F : Char → β}
    (hF : ∀ n ∈ List.range' 65 26, F (Char.ofNat n).toLower = F (Char.ofNat n)) {a b : Char}
    (h : a.toLower = b.toLower) : F a = F b := by
  rw [← apply_toLower hF a, h, apply_toLower hF b]

/-- Characters with the same lowercase are alike as `c`, when `c` is among characters that
no uppercase ASCII letter is, nor its lowercase. -/
theorem eq_toLower_congr {a b : Char} {cs : List Char}
    (hcase : ∀ n ∈ List.range' 65 26, Char.ofNat n ∉ cs ∧ (Char.ofNat n).toLower ∉ cs)
    {c : Char} (hc : c ∈ cs) (h : a.toLower = b.toLower) : a = c ↔ b = c := by
  have hne : ∀ n ∈ List.range' 65 26, Char.ofNat n ≠ c ∧ (Char.ofNat n).toLower ≠ c :=
    fun n hn => ⟨fun he => (hcase n hn).1 (he ▸ hc), fun he => (hcase n hn).2 (he ▸ hc)⟩
  have hF := toLower_congr (F := fun x => decide (x = c)) (fun n hn => by
    simp only [(hne n hn).1, (hne n hn).2]) h
  simpa using hF

/-- What the reader sees of an uppercase ASCII letter and of its lowercase: its tests, the
lowercase and uppercase it takes, the ASCII uppercase and whether the letter is ASCII are alike
on the two, and neither is a dot, a line feed, a comma or one of the four letters past ASCII
that spell a keyword letter.  The kernel checks all 26 letters at once. -/
theorem upperAscii_classes :
    (∀ n ∈ List.range' 65 26, isPlain (Char.ofNat n).toLower = isPlain (Char.ofNat n)) ∧
      (∀ n ∈ List.range' 65 26, isLoose (Char.ofNat n).toLower = isLoose (Char.ofNat n)) ∧
      (∀ n ∈ List.range' 65 26,
        Text.isBlank (Char.ofNat n).toLower = Text.isBlank (Char.ofNat n)) ∧
      (∀ n ∈ List.range' 65 26,
        isBoundaryWord (Char.ofNat n).toLower = isBoundaryWord (Char.ofNat n)) ∧
      (∀ n ∈ List.range' 65 26,
        Text.lowerChar (Char.ofNat n).toLower = Text.lowerChar (Char.ofNat n)) ∧
      (∀ n ∈ List.range' 65 26,
        Text.upperChar (Char.ofNat n).toLower = Text.upperChar (Char.ofNat n)) ∧
      (∀ n ∈ List.range' 65 26, (Char.ofNat n).toLower.toUpper = (Char.ofNat n).toUpper) ∧
      (∀ n ∈ List.range' 65 26,
        decide ((Char.ofNat n).toLower.toNat < 128) = decide ((Char.ofNat n).toNat < 128)) ∧
      ∀ n ∈ List.range' 65 26,
        Char.ofNat n ∉ ['.', '\n', ',', 'İ', 'ı', 'ſ', 'K'] ∧
          (Char.ofNat n).toLower ∉ ['.', '\n', ',', 'İ', 'ı', 'ſ', 'K'] := by
  decide +kernel

/-- Spelling a keyword letter looks at a character's ASCII uppercase, at whether it is ASCII,
and at the four letters past ASCII that spell one: all alike on the two cases of an ASCII letter. -/
theorem spells_toLower_congr {k a b : Char} (h : a.toLower = b.toLower) :
    spells k a = spells k b := by
  obtain ⟨-, -, -, -, -, -, hupper, hascii, hother⟩ := upperAscii_classes
  have h1 := eq_toLower_congr hother (c := 'İ') (by decide) h
  have h2 := eq_toLower_congr hother (c := 'ı') (by decide) h
  have h3 := eq_toLower_congr hother (c := 'ſ') (by decide) h
  have h4 := eq_toLower_congr hother (c := 'K') (by decide) h
  have hascii := decide_eq_decide.mp (toLower_congr (F := fun c => decide (c.toNat < 128)) hascii h)
  simp only [spells, toLower_congr hupper h, hascii, h1, h2, h3, h4]

/-- **A change of ASCII case is invisible to the reader.** -/
theorem caseIndistinct : LineIndistinct fun a b : Char => a.toLower = b.toLower := by
  obtain ⟨hplain, hloose, hblank, hboundary, hlower, hupper, -, -, hother⟩ := upperAscii_classes
  exact
    { plain := toLower_congr hplain
      loose := toLower_congr hloose
      blank := toLower_congr hblank
      boundary := toLower_congr hboundary
      spells := fun _ => spells_toLower_congr
      dot := eq_toLower_congr hother (c := '.') (by decide)
      lower := fun h _ => toLower_congr hlower h
      upper := fun h _ => toLower_congr hupper h
      lineFeed := eq_toLower_congr hother (c := '\n') (by decide)
      comma := eq_toLower_congr hother (c := ',') (by decide) }

/-- Strings with the same ASCII lowercase are related character by character. -/
theorem forall₂_of_toLower_eq {s t : String} (h : s.map Char.toLower = t.map Char.toLower) :
    List.Forall₂ (fun a b : Char => a.toLower = b.toLower) s.toList t.toList := by
  have hmap : List.Forall₂ Eq (s.toList.map Char.toLower) (t.toList.map Char.toLower) := by
    rw [List.forall₂_eq_eq_eq, ← String.toList_map, ← String.toList_map, h]
  exact List.forall₂_map_right_iff.mp (List.forall₂_map_left_iff.mp hmap)

/-- **Statements that differ only in ASCII case bind the same aliases.** -/
theorem bindings_caseBlind {text text' : String}
    (h : text'.map Char.toLower = text.map Char.toLower) : bindings text' = bindings text :=
  bindings_indistinct caseIndistinct.toIndistinct (forall₂_of_toLower_eq h)

/-! ## Contexts up to ASCII case -/

/-- A context with its word, names and alias in ASCII lowercase. -/
def Cursor.Context.foldCase (c : Context) : Context :=
  { c with
    word := c.word.map Char.toLower
    database := c.database.map (String.map Char.toLower)
    table := c.table.map (String.map Char.toLower)
    viaAlias := c.viaAlias.map (String.map Char.toLower) }

theorem AlikeIn.toLower_eq {p : Char → Bool} {s t : String}
    (h : AlikeIn p (fun a b : Char => a.toLower = b.toLower) s t) :
    s.map Char.toLower = t.map Char.toLower := by
  rw [← String.toList_inj, String.toList_map, String.toList_map, ← List.forall₂_eq_eq_eq]
  exact List.forall₂_map_left_iff.mpr (List.forall₂_map_right_iff.mpr (h.imp fun _ _ => And.left))

theorem optionRel_toLower_eq {p : Char → Bool} {x y : Option String}
    (h : Option.Rel (AlikeIn p fun a b : Char => a.toLower = b.toLower) x y) :
    x.map (String.map Char.toLower) = y.map (String.map Char.toLower) := by
  cases h with
  | none => rfl
  | some hs => rw [Option.map_some, Option.map_some, hs.toLower_eq]

/-- Contexts alike up to a case change are the same up to ASCII case. -/
theorem Cursor.Context.Alike.foldCase_eq {c c' : Context}
    (h : Context.Alike (fun a b : Char => a.toLower = b.toLower) c c') :
    c.foldCase = c'.foldCase := by
  have hnames : c.database.map (String.map Char.toLower) = c'.database.map (String.map Char.toLower) ∧
      c.table.map (String.map Char.toLower) = c'.table.map (String.map Char.toLower) := by
    -- read through the alias, or related character by character
    by_cases hv : c.viaAlias = none
    · exact ⟨optionRel_toLower_eq (h.named hv).1, optionRel_toLower_eq (h.named hv).2⟩
    · obtain ⟨hd, ht⟩ := h.resolved hv
      rw [hd, ht]
      exact ⟨rfl, rfl⟩
  simp only [Context.foldCase, h.expect, h.word.toLower_eq, hnames.1, hnames.2,
    optionRel_toLower_eq h.viaAlias]

/-- **Lines and statements that differ only in ASCII case give the same context up to ASCII
case**: the same kind of name expected, the word typed so far, the names and the alias equal up
to ASCII case; and a table and database found through an alias exactly the same. -/
theorem parse_caseBlind (line line' : String) (cursor : Int) (query query' : Option String)
    (hl : line'.map Char.toLower = line.map Char.toLower)
    (hq : query'.map (String.map Char.toLower) = query.map (String.map Char.toLower)) :
    (parse line' cursor query').foldCase = (parse line cursor query).foldCase ∧
      ((parse line cursor query).viaAlias ≠ none →
        (parse line' cursor query').table = (parse line cursor query).table ∧
          (parse line' cursor query').database = (parse line cursor query).database) := by
  have hline := List.forall₂_take cursor.toNat (forall₂_of_toLower_eq hl.symm)
  have hquery : Option.Rel (fun s t : String => List.Forall₂
      (fun a b : Char => a.toLower = b.toLower) s.toList t.toList) query query' := by
    cases query <;> cases query' <;> simp only [Option.map_none, Option.map_some,
      reduceCtorEq, Option.some.injEq] at hq
    · exact .none
    · exact .some (forall₂_of_toLower_eq hq.symm)
  have halike := parse_indistinct caseIndistinct caseIndistinct.toIndistinct hline hquery
  refine ⟨halike.foldCase_eq.symm, fun hv => ?_⟩
  obtain ⟨hd, ht⟩ := halike.resolved hv
  exact ⟨ht.symm, hd.symm⟩

theorem parse_caseBlind_upper :
    ("SELECT U.i".map Char.toLower = "select u.i".map Char.toLower ∧
      (some "SELECT * FROM Shop.Users U").map (String.map Char.toLower) =
        (some "select * from shop.users u").map (String.map Char.toLower)) ∧
    ((parse "SELECT U.i" 10 (some "SELECT * FROM Shop.Users U")).foldCase =
        (parse "select u.i" 10 (some "select * from shop.users u")).foldCase ∧
      ((parse "select u.i" 10 (some "select * from shop.users u")).viaAlias ≠ none →
        (parse "SELECT U.i" 10 (some "SELECT * FROM Shop.Users U")).table =
            (parse "select u.i" 10 (some "select * from shop.users u")).table ∧
          (parse "SELECT U.i" 10 (some "SELECT * FROM Shop.Users U")).database =
            (parse "select u.i" 10 (some "select * from shop.users u")).database)) :=
  -- compared as character lists: the kernel does not run string maps
  have hl : "SELECT U.i".map Char.toLower = "select u.i".map Char.toLower := by
    rw [← String.toList_inj, String.toList_map, String.toList_map]
    decide +kernel
  have hq : (some "SELECT * FROM Shop.Users U").map (String.map Char.toLower) =
      (some "select * from shop.users u").map (String.map Char.toLower) := by
    rw [Option.map_some, Option.map_some, Option.some.injEq, ← String.toList_inj,
      String.toList_map, String.toList_map]
    decide +kernel
  ⟨⟨hl, hq⟩, parse_caseBlind _ _ _ _ _ hl hq⟩

end SqlAssist
