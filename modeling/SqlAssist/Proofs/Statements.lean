import Mathlib
import SqlAssist.Statement.Bounds

/-!
# Statements tile the buffer

The separators of a buffer cut it into statements, and `Statement.bounds` picks the one
under a cursor.  This file shows that the cut is a tiling: every offset lands in exactly
one separator-free stretch of the buffer, running from the start or just after a
separator up to the next separator or the end, and the stretches with the separators
between them spell the buffer again.

## 1.  The separators are semicolons, in order

The separators are read by a tokenizer, and the tiling needs of it only what
`Tokenizer.Sound` says: its semicolon tokens start at increasing positions of `;`
characters.  The positions of every semicolon, the fallback, are such positions as well
(`semicolons_separating`), so over a sound tokenizer the separators of any buffer are
(`separators_separating`).  The tokenizer of this library is sound: a lexeme read at the
head of a text leaves a suffix of it, and a semicolon lexeme leaves the text after that
semicolon (`Lexeme.leaves_read`), so the positions `scan` collects are strictly increasing
positions of semicolons (`scan_separating`, `lexemes_sound`).

## 2.  The statement under an offset

`boundsFrom` walks the separators in order.  For strictly increasing separators its
result `(a, b)` holds the offset, starts at the beginning or just after a separator,
ends at a separator or the end, has no separator in `[a, b)`, and is the result for
every offset in `[a, b]` (`boundsFrom_eq_of_le`).

## 3.  Tiling

`pieces` lists the stretches between consecutive separators.  Every offset's statement
is one of them, each of them is the statement of its own start, and joining their texts
with `;` gives the buffer back (`intercalate_pieces`).  The main statement is
`bounds_tile`.
-/

namespace SqlAssist.Statement

/-! ## 1.  The separators are semicolons, in order -/

/-- A quoted run leaves a suffix of the text after its opening quote. -/
theorem skipQuoted_suffix {q : Char} {cs r : List Char} (h : skipQuoted q cs = some r) :
    r <:+ cs := by
  fun_induction skipQuoted q cs with
  | case1 | case2 => cases h
  | case3 rest' _ ih =>
    exact (ih h).trans ((List.suffix_cons q rest').trans (List.suffix_cons q _))
  | case4 d rest' _ =>
    cases h
    exact List.suffix_cons q _
  | case5 =>
    cases h
    exact List.suffix_cons q _
  | case6 c rest _ ih => exact (ih h).trans (List.suffix_cons c rest)

/-- A block comment leaves a suffix of the text after its opening. -/
theorem skipBlock_suffix {o s : List Char} {nests : Bool} {depth : Nat} {cs r : List Char}
    (h : skipBlock o s nests depth cs = some r) : r <:+ cs := by
  fun_induction skipBlock o s nests depth cs with
  | case1 depth c₁ c₂ rest closes _ =>
    cases h
    exact (List.suffix_cons c₂ _).trans (List.suffix_cons c₁ _)
  | case2 depth c₁ c₂ rest closes _ depth' _ ih =>
    exact (ih h).trans (((List.drop_suffix 1 rest).trans (List.suffix_cons c₂ rest)).trans
      (List.suffix_cons c₁ _))
  | case3 depth c₁ c₂ rest closes _ depth' _ ih => exact (ih h).trans (List.suffix_cons c₁ _)
  | case4 => cases h

/-- What a lexeme leaves of the text it was read from: a semicolon the text right after
it, any other lexeme a suffix of the text. -/
def Lexeme.Leaves {cs : List Char} : Lexeme cs → Prop
  | .semicolon rest _ => cs = ';' :: rest
  | .token _ rest _ => rest <:+ cs
  | .skipped rest _ => rest <:+ cs
  | .unclosed | .done => True

theorem Lexeme.leaves_tokenAfter {cs : List Char} {o : Option (List Char)}
    (ho : ∀ r, o = some r → r <:+ cs) : (Lexeme.tokenAfter cs o).Leaves := by
  unfold Lexeme.tokenAfter
  split
  · trivial
  · split
    · exact ho _ rfl
    · trivial

theorem Lexeme.leaves_skippedAfter {cs : List Char} {o : Option (List Char)}
    (ho : ∀ r, o = some r → r <:+ cs) : (Lexeme.skippedAfter cs o).Leaves := by
  unfold Lexeme.skippedAfter
  split
  · trivial
  · split
    · exact ho _ rfl
    · trivial

/-- **Every lexeme leaves what it should.**  The one-character lexemes and the numbers,
operators and words leave the tail or a part of it; strings, identifiers and comments leave
what their skipping leaves, which is a suffix. -/
theorem Lexeme.leaves_read (ap : Bool) (cs : List Char) : (Lexeme.read ap cs).Leaves := by
  unfold Lexeme.read
  split
  · trivial
  · rename_i c rest
    -- what is left after the first character, or after an opening spelling, is a suffix
    have hdrop : ∀ n, (rest.drop n) <:+ c :: rest :=
      fun n => (List.drop_suffix n rest).trans (List.suffix_cons c rest)
    have hopen : ∀ (s r : List Char), r <:+ (c :: rest).drop s.length → r <:+ c :: rest :=
      fun s r hr => hr.trans (List.drop_suffix _ _)
    -- the branches of `read` in order: a semicolon, a blank, a number, a quoted identifier,
    -- then by the longest spelling an operator, a line comment, a block comment, a string,
    -- and with no spelling a single character or a bare word
    split
    · rename_i hc
      subst hc
      rfl
    split
    · exact List.suffix_cons c rest
    split
    · exact hdrop _
    split
    · exact Lexeme.leaves_tokenAfter fun r hr =>
        (skipQuoted_suffix hr).trans (List.suffix_cons c rest)
    split
    · exact hdrop _
    · exact Lexeme.leaves_skippedAfter fun r hr => by
        cases hr
        exact hopen _ _ (List.dropWhile_suffix _)
    · exact Lexeme.leaves_skippedAfter fun r hr => hopen _ _ (skipBlock_suffix hr)
    · exact Lexeme.leaves_tokenAfter fun r hr => hopen _ _ (skipQuoted_suffix hr)
    · split
      · exact List.suffix_cons c rest
      · exact hdrop _

/-- `S` lists strictly increasing positions of semicolons of `cs`, counting from `pos`
for the first character of `cs`. -/
def Separating (cs : List Char) (pos : Nat) (S : List Nat) : Prop :=
  S.Pairwise (· < ·) ∧ ∀ p ∈ S, pos ≤ p ∧ cs[p - pos]? = some ';'

theorem Separating.nil (cs : List Char) (pos : Nat) : Separating cs pos [] := by
  simp [Separating]

/-- A semicolon at the head comes before the separators of the text after it. -/
theorem Separating.semicolon {rest : List Char} {pos : Nat} {S : List Nat}
    (h : Separating rest (pos + 1) S) : Separating (';' :: rest) pos (pos :: S) := by
  obtain ⟨hsorted, hpos⟩ := h
  refine ⟨List.pairwise_cons.2 ⟨fun p hp => by have := (hpos p hp).1; omega, hsorted⟩, ?_⟩
  intro p hp
  rcases List.mem_cons.1 hp with rfl | hp
  · simp
  · obtain ⟨hle, hp⟩ := hpos p hp
    refine ⟨by omega, ?_⟩
    have hsucc : p - pos = (p - (pos + 1)) + 1 := by omega
    rw [hsucc, List.getElem?_cons_succ]
    exact hp

/-- Separators of a suffix, counted from where the suffix starts, are separators of the
whole text. -/
theorem Separating.of_suffix {pre rest : List Char} {pos : Nat} {S : List Nat}
    (h : Separating rest (pos + pre.length) S) : Separating (pre ++ rest) pos S := by
  obtain ⟨hsorted, hpos⟩ := h
  refine ⟨hsorted, fun p hp => ?_⟩
  obtain ⟨hle, hp⟩ := hpos p hp
  refine ⟨by omega, ?_⟩
  rw [List.getElem?_append_right (by omega)]
  have hshift : p - pos - pre.length = p - (pos + pre.length) := by omega
  rw [hshift]
  exact hp

/-- The same for a suffix given as such, counted from where it starts. -/
theorem Separating.of_isSuffix {cs rest : List Char} {pos : Nat} {S : List Nat}
    (hsuf : rest <:+ cs) (h : Separating rest (pos + (cs.length - rest.length)) S) :
    Separating cs pos S := by
  obtain ⟨pre, rfl⟩ := hsuf
  have hlen : (pre ++ rest).length - rest.length = pre.length := by simp
  exact Separating.of_suffix (by simpa [hlen] using h)

/-- **The lexer's semicolons are separating.**  The positions `scan` collects are
strictly increasing positions of semicolons: each is where a semicolon lexeme starts, and
every lexeme moves past what it reads. -/
theorem scan_separating {pos : Nat} {ap : Bool} {cs : List Char} {S : List Nat}
    (h : scan pos ap cs = some S) : Separating cs pos S := by
  fun_induction scan pos ap cs generalizing S with
  | case1 => cases h; exact Separating.nil _ _
  | case2 => cases h
  | case3 pos ap cs rest _ hread ih =>
    obtain ⟨S', hS', rfl⟩ := Option.map_eq_some_iff.1 h
    have hcs : cs = ';' :: rest := by simpa [hread, Lexeme.Leaves] using Lexeme.leaves_read ap cs
    subst hcs
    exact (ih hS').semicolon
  | case4 pos ap cs p rest _ hread ih =>
    have hsuf : rest <:+ cs := by simpa [hread, Lexeme.Leaves] using Lexeme.leaves_read ap cs
    exact Separating.of_isSuffix hsuf (ih h)
  | case5 pos ap cs rest _ hread ih =>
    have hsuf : rest <:+ cs := by simpa [hread, Lexeme.Leaves] using Lexeme.leaves_read ap cs
    exact Separating.of_isSuffix hsuf (ih h)

/-- The semicolon starts that a sound tokenizer reads are separating. -/
theorem Tokenizer.Sound.separating {tk : Tokenizer} (htk : tk.Sound) {cs : List Char}
    {S : List Nat} (h : tk.semicolonStarts cs = some S) : Separating cs 0 S := by
  obtain ⟨hsorted, hpos⟩ := htk cs S h
  exact ⟨hsorted, fun p hp => ⟨Nat.zero_le p, by rw [Nat.sub_zero]; exact hpos p hp⟩⟩

/-- **The tokenizer of this library is sound**: its semicolon lexemes start at increasing
positions of semicolons. -/
theorem lexemes_sound : lexemes.Sound := by
  intro cs S h
  obtain ⟨hsorted, hpos⟩ := scan_separating h
  exact ⟨hsorted, fun p hp => by simpa using (hpos p hp).2⟩

/-- Counting every position one further keeps the separators of a text. -/
theorem Separating.shift {cs : List Char} {pos : Nat} {S : List Nat} (h : Separating cs pos S) :
    Separating cs (pos + 1) (S.map (· + 1)) := by
  obtain ⟨hsorted, hpos⟩ := h
  refine ⟨hsorted.map _ fun a b hab => by omega, fun p hp => ?_⟩
  obtain ⟨q, hq, rfl⟩ := List.mem_map.1 hp
  obtain ⟨hle, hq⟩ := hpos q hq
  refine ⟨by omega, ?_⟩
  have hsame : q + 1 - (pos + 1) = q - pos := by omega
  rw [hsame]
  exact hq

/-- The semicolons of a text are those of its head, then those of its tail, one further. -/
theorem semicolons_cons (c : Char) (cs : List Char) :
    semicolons (c :: cs) = (if c = ';' then [0] else []) ++ (semicolons cs).map (· + 1) := by
  unfold semicolons
  rw [List.length_cons, List.range_succ_eq_map, List.zip_cons_cons, List.zip_map_left,
    List.filterMap_cons, List.filterMap_map, List.map_filterMap]
  by_cases hc : c = ';' <;> simp [hc]

theorem semicolons_separating (cs : List Char) : Separating cs 0 (semicolons cs) := by
  induction cs with
  | nil => exact Separating.nil _ _
  | cons c cs ih =>
    rw [semicolons_cons]
    by_cases hc : c = ';'
    · subst hc
      simpa using ih.shift.semicolon
    · simpa [hc] using @Separating.of_suffix [c] cs 0 _ (by simpa using ih.shift)

/-- **The separators of a buffer are strictly increasing positions of semicolons**, over
a sound tokenizer, whether it reads the buffer or rejects it. -/
theorem separators_separating {tk : Tokenizer} (htk : tk.Sound) (cs : List Char) :
    Separating cs 0 (separators cs tk) := by
  unfold separators
  split
  · cases hstarts : tk.semicolonStarts cs with
    | none => exact semicolons_separating cs
    | some S => exact htk.separating hstarts
  · exact Separating.nil _ _

/-- A separator stands inside the buffer. -/
theorem Separating.lt_length {cs : List Char} {S : List Nat} (h : Separating cs 0 S) {p : Nat}
    (hp : p ∈ S) : p < cs.length := by
  have := (h.2 p hp).2
  rw [Nat.sub_zero] at this
  exact (List.getElem?_eq_some_iff.1 this).1

/-! ## 2.  The statement under an offset -/

section Walk

variable (len o : Nat)

/-- The walk starts its statement at `start` or just after a separator it passed. -/
theorem boundsFrom_fst_cases (start : Nat) (S : List Nat) :
    (boundsFrom len o start S).1 = start ∨ ∃ s ∈ S, (boundsFrom len o start S).1 = s + 1 := by
  induction S generalizing start with
  | nil => simp [boundsFrom]
  | cons p ps ih =>
    unfold boundsFrom
    split
    · rcases ih (p + 1) with h | ⟨s, hs, h⟩
      · exact .inr ⟨p, List.mem_cons_self, h⟩
      · exact .inr ⟨s, List.mem_cons_of_mem p hs, h⟩
    · exact .inl rfl

/-- The walk ends its statement at the end or at a separator. -/
theorem boundsFrom_snd_cases (start : Nat) (S : List Nat) :
    (boundsFrom len o start S).2 = len ∨ (boundsFrom len o start S).2 ∈ S := by
  induction S generalizing start with
  | nil => simp [boundsFrom]
  | cons p ps ih =>
    unfold boundsFrom
    split
    · rcases ih (p + 1) with h | h
      · exact .inl h
      · exact .inr (List.mem_cons_of_mem p h)
    · exact .inr List.mem_cons_self

/-- The statement starts at or before the offset: only separators before it are passed. -/
theorem boundsFrom_fst_le {start : Nat} (S : List Nat) (h : start ≤ o) :
    (boundsFrom len o start S).1 ≤ o := by
  induction S generalizing start with
  | nil => simpa [boundsFrom] using h
  | cons p ps ih =>
    unfold boundsFrom
    split
    · exact ih (by omega)
    · exact h

/-- The statement ends at or after an offset inside the buffer: it ends at the first
separator not before the offset. -/
theorem le_boundsFrom_snd (start : Nat) (S : List Nat) (h : o ≤ len) :
    o ≤ (boundsFrom len o start S).2 := by
  induction S generalizing start with
  | nil => simpa [boundsFrom] using h
  | cons p ps ih =>
    unfold boundsFrom
    split
    · exact ih _
    · omega

variable {len o}

/-- Past a separator, the walk over increasing separators starts after it. -/
theorem lt_boundsFrom_fst {p : Nat} {ps : List Nat} (hsorted : (p :: ps).Pairwise (· < ·)) :
    p < (boundsFrom len o (p + 1) ps).1 := by
  rcases boundsFrom_fst_cases len o (p + 1) ps with h | ⟨s, hs, h⟩
  · omega
  · have := (List.pairwise_cons.1 hsorted).1 s hs
    omega

/-- **No separator inside a statement.**  Every separator comes before the statement's
start or at or after its end. -/
theorem boundsFrom_gap {S : List Nat} (hsorted : S.Pairwise (· < ·)) (start : Nat) :
    ∀ s ∈ S, s < (boundsFrom len o start S).1 ∨ (boundsFrom len o start S).2 ≤ s := by
  induction S generalizing start with
  | nil => simp
  | cons p ps ih =>
    intro s hs
    unfold boundsFrom
    split
    · rcases List.mem_cons.1 hs with rfl | hs
      · exact .inl (lt_boundsFrom_fst hsorted)
      · exact ih (List.pairwise_cons.1 hsorted).2 _ s hs
    · rcases List.mem_cons.1 hs with rfl | hs
      · exact .inr le_rfl
      · exact .inr (le_of_lt ((List.pairwise_cons.1 hsorted).1 s hs))

/-- **Every offset of a statement has that statement.**  Over increasing separators, an
offset between the start and the end of the statement of `o` passes the same separators
and stops at the same one. -/
theorem boundsFrom_eq_of_le {S : List Nat} (hsorted : S.Pairwise (· < ·)) (start : Nat)
    {o' : Nat} (hlo : (boundsFrom len o start S).1 ≤ o') (hhi : o' ≤ (boundsFrom len o start S).2) :
    boundsFrom len o' start S = boundsFrom len o start S := by
  induction S generalizing start with
  | nil => rfl
  | cons p ps ih =>
    unfold boundsFrom at hlo hhi ⊢
    by_cases hp : p < o
    · rw [if_pos hp] at hlo hhi ⊢
      -- the statement of `o` starts past `p`, so `o'` passes `p` too
      have hp' : p < o' := lt_of_lt_of_le (lt_boundsFrom_fst hsorted) hlo
      rw [if_pos hp']
      exact ih (List.pairwise_cons.1 hsorted).2 _ hlo hhi
    · rw [if_neg hp] at hhi ⊢
      rw [if_neg (by simp only at hhi; omega)]

end Walk

/-! ## 3.  Tiling -/

/-- The stretches that the separators `S` cut `[start, len]` into: each runs from `start`
or just after a separator up to the next separator, the last one up to `len`. -/
def pieces (start len : Nat) (S : List Nat) : List (Nat × Nat) :=
  (start :: S.map (· + 1)).zip (S ++ [len])

@[simp] theorem pieces_nil (start len : Nat) : pieces start len [] = [(start, len)] := rfl

@[simp] theorem pieces_cons (start len p : Nat) (ps : List Nat) :
    pieces start len (p :: ps) = (start, p) :: pieces (p + 1) len ps := by
  cases ps <;> simp [pieces]

theorem pieces_ne_nil (start len : Nat) (S : List Nat) : pieces start len S ≠ [] := by
  cases S <;> simp

section Walk

variable {len : Nat}

/-- **Every statement is a piece.** -/
theorem boundsFrom_mem_pieces (o start : Nat) (S : List Nat) :
    boundsFrom len o start S ∈ pieces start len S := by
  induction S generalizing start with
  | nil => simp [boundsFrom]
  | cons p ps ih =>
    unfold boundsFrom
    split
    · exact List.mem_cons_of_mem _ (ih (p + 1))
    · exact List.mem_cons_self

/-- A piece of increasing separators not before `start` starts at or after `start`. -/
theorem le_of_mem_pieces {start : Nat} {S : List Nat} (hsorted : S.Pairwise (· < ·))
    (hge : ∀ s ∈ S, start ≤ s) {q : Nat × Nat} (hq : q ∈ pieces start len S) : start ≤ q.1 := by
  induction S generalizing start with
  | nil => simp_all
  | cons p ps ih =>
    rcases List.mem_cons.1 (by simpa using hq) with rfl | hq
    · exact le_rfl
    · have hps : ∀ s ∈ ps, p + 1 ≤ s := fun s hs => (List.pairwise_cons.1 hsorted).1 s hs
      have := ih (List.pairwise_cons.1 hsorted).2 hps hq
      have := hge p List.mem_cons_self
      omega

/-- **Every piece is the statement of its own start.** -/
theorem boundsFrom_of_mem_pieces {start : Nat} {S : List Nat} (hsorted : S.Pairwise (· < ·))
    (hge : ∀ s ∈ S, start ≤ s) {q : Nat × Nat} (hq : q ∈ pieces start len S) :
    boundsFrom len q.1 start S = q := by
  induction S generalizing start with
  | nil =>
    obtain rfl : q = (start, len) := by simpa using hq
    rfl
  | cons p ps ih =>
    have hps : ∀ s ∈ ps, p + 1 ≤ s := fun s hs => (List.pairwise_cons.1 hsorted).1 s hs
    rcases List.mem_cons.1 (by simpa using hq) with rfl | hq
    · -- the first piece ends at `p`, which its start does not pass
      have hp : ¬ p < start := Nat.not_lt.2 (hge p List.mem_cons_self)
      simp [boundsFrom, hp]
    · -- a later piece starts after `p`, so its start passes `p`
      have hp : p < q.1 := le_of_mem_pieces (List.pairwise_cons.1 hsorted).2 hps hq
      rw [boundsFrom, if_pos hp]
      exact ih (List.pairwise_cons.1 hsorted).2 hps hq

end Walk

/-- **The pieces spell the text.**  Cut at increasing semicolons, the texts of the pieces
joined with `;` are the text from `start` on. -/
theorem intercalate_pieces {cs : List Char} {start : Nat} {S : List Nat}
    (hsep : Separating cs 0 S) (hge : ∀ s ∈ S, start ≤ s) (hstart : start ≤ cs.length) :
    List.intercalate [';'] ((pieces start cs.length S).map fun q => (cs.take q.2).drop q.1) =
      cs.drop start := by
  induction S generalizing start with
  | nil => simp
  | cons p ps ih =>
    obtain ⟨hsorted, hpos⟩ := hsep
    have hps : Separating cs 0 ps :=
      ⟨(List.pairwise_cons.1 hsorted).2, fun s hs => hpos s (List.mem_cons_of_mem p hs)⟩
    have hlt : p < cs.length := Separating.lt_length ⟨hsorted, hpos⟩ List.mem_cons_self
    have hsemi : cs[p] = ';' := by
      simpa [List.getElem?_eq_getElem hlt] using (hpos p List.mem_cons_self).2
    have hp : start ≤ p := hge p List.mem_cons_self
    -- the text from `start` is the first piece, the semicolon at `p`, and the rest
    have hsplit : cs.drop start = (cs.take p).drop start ++ ';' :: cs.drop (p + 1) := by
      rw [← hsemi, ← List.drop_eq_getElem_cons hlt,
        ← List.drop_append_of_le_length (by simp; omega), List.take_append_drop]
    rw [pieces_cons, List.map_cons, List.intercalate_cons_of_ne_nil (by simp [pieces_ne_nil]),
      ih hps (fun s hs => (List.pairwise_cons.1 hsorted).1 s hs) (by omega), hsplit]
    simp

/-- **Statements tile the buffer.**  For every offset, the statement under it holds the
clamped offset, starts at the beginning or just after a separator, ends at a separator or
the end, has no separator inside, and is the statement of every offset between its ends.
So the statements over all offsets are exactly the pieces between consecutive
separators, each the statement of its own start, and these joined with `;` give the
buffer back. -/
theorem bounds_tile (tk : Tokenizer) (htk : tk.Sound) (cs : List Char) :
    (∀ (offset : Int) (a b : Nat), bounds cs offset tk = (a, b) →
      a ≤ clampOffset cs.length offset ∧ clampOffset cs.length offset ≤ b ∧
      (a = 0 ∨ ∃ s ∈ separators cs tk, a = s + 1) ∧ (b = cs.length ∨ b ∈ separators cs tk) ∧
      (∀ s ∈ separators cs tk, ¬ (a ≤ s ∧ s < b)) ∧
      ∀ o' : Nat, a ≤ o' → o' ≤ b → bounds cs o' tk = (a, b)) ∧
    (∀ offset : Int, bounds cs offset tk ∈ pieces 0 cs.length (separators cs tk)) ∧
    (∀ q ∈ pieces 0 cs.length (separators cs tk), bounds cs q.1 tk = q) ∧
    List.intercalate [';'] ((pieces 0 cs.length (separators cs tk)).map fun q =>
      statementAt cs q.1 tk) = cs := by
  have hsep := separators_separating htk cs
  have hclamp : ∀ o : Nat, o ≤ cs.length → clampOffset cs.length o = o := fun o ho => by
    simp [clampOffset, ho]
  -- a piece starts at the beginning or just after a separator, so inside the buffer, and
  -- its start is its own clamped offset
  have hpiece : ∀ q ∈ pieces 0 cs.length (separators cs tk), bounds cs q.1 tk = q := by
    intro q hq
    have hle : q.1 ≤ cs.length := by
      rcases List.mem_cons.1 (List.of_mem_zip hq).1 with h | h
      · omega
      · obtain ⟨s, hs, h⟩ := List.mem_map.1 h
        have := hsep.lt_length hs
        omega
    rw [bounds, hclamp _ hle]
    exact boundsFrom_of_mem_pieces hsep.1 (fun _ _ => Nat.zero_le _) hq
  refine ⟨fun offset a b hab => ?_, fun offset => boundsFrom_mem_pieces _ _ _, hpiece, ?_⟩
  · have ho : clampOffset cs.length offset ≤ cs.length := min_le_right _ _
    have hbF :
        boundsFrom cs.length (clampOffset cs.length offset) 0 (separators cs tk) = (a, b) := hab
    have hb : b ≤ cs.length := by
      rcases boundsFrom_snd_cases cs.length (clampOffset cs.length offset) 0 (separators cs tk)
        with h | h <;> rw [hbF] at h
      · exact h.le
      · exact (hsep.lt_length h).le
    refine ⟨?_, ?_, ?_, ?_, ?_, ?_⟩
    · simpa [hbF] using boundsFrom_fst_le cs.length (clampOffset cs.length offset)
        (separators cs tk) (Nat.zero_le _)
    · simpa [hbF] using le_boundsFrom_snd cs.length _ 0 (separators cs tk) ho
    · simpa [hbF] using boundsFrom_fst_cases cs.length (clampOffset cs.length offset) 0
        (separators cs tk)
    · simpa [hbF] using boundsFrom_snd_cases cs.length (clampOffset cs.length offset) 0
        (separators cs tk)
    · intro s hs
      have := @boundsFrom_gap cs.length (clampOffset cs.length offset) _ hsep.1 0 s hs
      rw [hbF] at this
      omega
    · intro o' hlo hhi
      rw [bounds, hclamp o' (by omega), ← hbF]
      exact boundsFrom_eq_of_le hsep.1 0 (by rw [hbF]; exact hlo) (by rw [hbF]; exact hhi)
  · have htext : ∀ q ∈ pieces 0 cs.length (separators cs tk),
        statementAt cs q.1 tk = (cs.take q.2).drop q.1 := by
      intro q hq
      simp [statementAt, hpiece q hq]
    rw [List.map_congr_left htext,
      intercalate_pieces hsep (fun _ _ => Nat.zero_le _) (Nat.zero_le _), List.drop_zero]

/-- A semicolon inside a string does not cut the buffer: cut by the lexemes, the statements
of `select ';'; select 2` spell it again. -/
theorem bounds_tile_lexemes :
    lexemes.Sound ∧
      List.intercalate [';'] ((pieces 0 20 (separators "select ';'; select 2".toList)).map
        fun q => statementAt "select ';'; select 2".toList q.1) = "select ';'; select 2".toList :=
  ⟨lexemes_sound, (bounds_tile lexemes lexemes_sound "select ';'; select 2".toList).2.2.2⟩

end SqlAssist.Statement
