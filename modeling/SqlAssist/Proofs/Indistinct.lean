import SqlAssist.Proofs.Keywords
import SqlAssist.Proofs.TableNames

/-!
# What the cursor reader cannot tell apart

`Cursor.parse` and `Alias.bindings` look at characters only through a few tests: is it a
plain or a loose word character, a blank, a word character for boundaries, a dot, a comma, a
line feed, does it spell a given keyword letter; and the characters of a table reference or an
alias reach the result only lowercased (or, for the clause-keyword guard, uppercased).

A relation `R` on characters is *indistinct* to the reader when every one of these tests gives
the same answer on `R`-related characters (`Indistinct`, and `LineIndistinct` for the tests on
the line, which adds the line feed and the comma).  Then texts related character by character
read alike:

* their alias bindings are the same (`bindings_indistinct`);
* the contexts `parse` gives are alike (`parse_indistinct`): the same kind of name is expected,
  the word typed so far, the qualifier and the table or database named by it are related
  character by character and made of plain characters, and a table and database found through
  an alias are the same.

Case-blindness and blank-blindness are two instances (`SqlAssist.Proofs.CaseBlind`,
`SqlAssist.Proofs.Blanks`).

## Main statements

* `bindings_indistinct`: related statements have the same alias bindings.
* `parse_indistinct`: related lines and statements give alike contexts.
-/

namespace SqlAssist

open Word Alias

/-! ## Related lists and options -/

section Relations

variable {α β γ δ : Type} {R : α → β → Prop}

theorem forall₂_dropWhile {p : α → Bool} {q : β → Bool} (hpq : ∀ {a b}, R a b → p a = q b)
    {s : List α} {t : List β} (h : List.Forall₂ R s t) :
    List.Forall₂ R (s.dropWhile p) (t.dropWhile q) := by
  induction h with
  | nil => exact .nil
  | @cons a b s t hab h ih =>
    rw [List.dropWhile_cons, List.dropWhile_cons, hpq hab]
    split
    · exact ih
    · exact .cons hab h

/-- A related run of `p`-characters: related character by character, each satisfying `p`. -/
theorem forall₂_takeWhile_and {p : α → Bool} {q : β → Bool} (hpq : ∀ {a b}, R a b → p a = q b)
    {s : List α} {t : List β} (h : List.Forall₂ R s t) :
    List.Forall₂ (fun a b => R a b ∧ p a = true) (s.takeWhile p) (t.takeWhile q) := by
  induction h with
  | nil => exact .nil
  | @cons a b s t hab _ ih =>
    rw [List.takeWhile_cons, List.takeWhile_cons, ← hpq hab]
    split
    · exact .cons ⟨hab, ‹_›⟩ ih
    · exact .nil

theorem forall₂_head? {s : List α} {t : List β} (h : List.Forall₂ R s t) :
    Option.Rel R s.head? t.head? := by
  cases h with
  | nil => exact .none
  | cons hab _ => exact .some hab

theorem forall₂_getLast? {s : List α} {t : List β} (h : List.Forall₂ R s t) :
    Option.Rel R s.getLast? t.getLast? := by
  rw [← List.head?_reverse, ← List.head?_reverse]
  exact forall₂_head? (List.forall₂_reverse_iff.mpr h)

theorem forall₂_dropLast {s : List α} {t : List β} (h : List.Forall₂ R s t) :
    List.Forall₂ R s.dropLast t.dropLast := by
  rw [List.dropLast_eq_take, List.dropLast_eq_take, h.length_eq]
  exact List.forall₂_take _ h

theorem forall₂_any {f : α → Bool} {g : β → Bool} (hfg : ∀ {a b}, R a b → f a = g b)
    {s : List α} {t : List β} (h : List.Forall₂ R s t) : s.any f = t.any g := by
  induction h with
  | nil => rfl
  | cons hab _ ih => rw [List.any_cons, List.any_cons, hfg hab, ih]

theorem any_congr_of_mem {s : List α} {f g : α → Bool} (h : ∀ a ∈ s, f a = g a) :
    s.any f = s.any g := by
  induction s with
  | nil => rfl
  | cons a s ih =>
    rw [List.any_cons, List.any_cons, h a List.mem_cons_self,
      ih fun b hb => h b (List.mem_cons_of_mem a hb)]

theorem forall₂_all {f : α → Bool} {g : β → Bool} (hfg : ∀ {a b}, R a b → f a = g b)
    {s : List α} {t : List β} (h : List.Forall₂ R s t) : s.all f = t.all g := by
  induction h with
  | nil => rfl
  | cons hab _ ih => rw [List.all_cons, List.all_cons, hfg hab, ih]

theorem forall₂_flatMap {f : α → List γ} {g : β → List γ} (hfg : ∀ {a b}, R a b → f a = g b)
    {s : List α} {t : List β} (h : List.Forall₂ R s t) : s.flatMap f = t.flatMap g := by
  induction h with
  | nil => rfl
  | cons hab _ ih => rw [List.flatMap_cons, List.flatMap_cons, hfg hab, ih]

theorem forall₂_filterMap {f : α → Option γ} {g : β → Option γ}
    (hfg : ∀ {a b}, R a b → f a = g b) {s : List α} {t : List β} (h : List.Forall₂ R s t) :
    s.filterMap f = t.filterMap g := by
  induction h with
  | nil => rfl
  | cons hab _ ih => rw [List.filterMap_cons, List.filterMap_cons, hfg hab, ih]

theorem forall₂_splitOnPPrepend {p : α → Bool} {q : β → Bool} (hpq : ∀ {a b}, R a b → p a = q b)
    {s : List α} {t : List β} (h : List.Forall₂ R s t) {acc : List α} {acc' : List β}
    (hacc : List.Forall₂ R acc acc') :
    List.Forall₂ (List.Forall₂ R) (s.splitOnPPrepend p acc) (t.splitOnPPrepend q acc') := by
  induction h generalizing acc acc' with
  | nil => exact .cons (List.forall₂_reverse_iff.mpr hacc) .nil
  | @cons a b s t hab _ ih =>
    rw [List.splitOnPPrepend_cons_eq_if, List.splitOnPPrepend_cons_eq_if, hpq hab]
    split
    · exact .cons (List.forall₂_reverse_iff.mpr hacc) (ih .nil)
    · exact ih (.cons hab hacc)

/-- Related lists split alike at related separators. -/
theorem forall₂_splitOnP {p : α → Bool} {q : β → Bool} (hpq : ∀ {a b}, R a b → p a = q b)
    {s : List α} {t : List β} (h : List.Forall₂ R s t) :
    List.Forall₂ (List.Forall₂ R) (s.splitOnP p) (t.splitOnP q) :=
  forall₂_splitOnPPrepend (fun hab => hpq hab) h .nil

theorem Forall₂.eq_nil_iff {s : List α} {t : List β} (h : List.Forall₂ R s t) :
    s = [] ↔ t = [] := by
  cases h <;> simp

/-- What holds of the left side of every related pair holds along the left list. -/
theorem Forall₂.forall_left {P : α → Prop} (hP : ∀ {a b}, R a b → P a) {s : List α}
    {t : List β} (h : List.Forall₂ R s t) : ∀ a ∈ s, P a := by
  induction h with
  | nil => simp
  | cons hab _ ih => exact List.forall_mem_cons.mpr ⟨hP hab, ih⟩

/-- What holds of the right side of every related pair holds along the right list. -/
theorem Forall₂.forall_right {P : β → Prop} (hP : ∀ {a b}, R a b → P b) {s : List α}
    {t : List β} (h : List.Forall₂ R s t) : ∀ b ∈ t, P b := by
  induction h with
  | nil => simp
  | cons hab _ ih => exact List.forall_mem_cons.mpr ⟨hP hab, ih⟩

theorem optionRel_bind {S : γ → δ → Prop} {x : Option α} {y : Option β} (h : Option.Rel R x y)
    {f : α → Option γ} {g : β → Option δ} (hfg : ∀ {a b}, R a b → Option.Rel S (f a) (g b)) :
    Option.Rel S (x.bind f) (y.bind g) := by
  cases h with
  | none => exact .none
  | some hab => exact hfg hab

theorem optionRel_map {S : γ → δ → Prop} {x : Option α} {y : Option β} (h : Option.Rel R x y)
    {f : α → γ} {g : β → δ} (hfg : ∀ {a b}, R a b → S (f a) (g b)) :
    Option.Rel S (x.map f) (y.map g) := by
  cases h with
  | none => exact .none
  | some hab => exact .some (hfg hab)

end Relations

/-! ## Relations the reader cannot see -/

/-- A relation on characters that none of the tests of the alias scan can see: related
characters are alike as plain and loose word characters, as blanks, as word characters for
a boundary and as dots, spell the same keyword letters, and, in a table reference or an
alias, lowercase and uppercase alike. -/
structure Indistinct (R : Char → Char → Prop) : Prop where
  plain : ∀ {a b}, R a b → isPlain a = isPlain b
  loose : ∀ {a b}, R a b → isLoose a = isLoose b
  blank : ∀ {a b}, R a b → Text.isBlank a = Text.isBlank b
  boundary : ∀ {a b}, R a b → isBoundaryWord a = isBoundaryWord b
  spells : ∀ {k a b}, Text.isBlank k = false → R a b → spells k a = spells k b
  dot : ∀ {a b}, R a b → (a = '.' ↔ b = '.')
  lower : ∀ {a b}, R a b → isReferenceChar a = true → Text.lowerChar a = Text.lowerChar b
  upper : ∀ {a b}, R a b → isLoose a = true → Text.upperChar a = Text.upperChar b

/-- A relation on characters that none of the tests on the line can see: besides those of the
alias scan, related characters are alike as line feeds and as commas. -/
structure LineIndistinct (R : Char → Char → Prop) : Prop extends Indistinct R where
  lineFeed : ∀ {a b}, R a b → (a = '\n' ↔ b = '\n')
  comma : ∀ {a b}, R a b → (a = ',' ↔ b = ',')

theorem Indistinct.reference {R : Char → Char → Prop} (hR : Indistinct R) {a b : Char}
    (h : R a b) : isReferenceChar a = isReferenceChar b := by
  simp only [isReferenceChar, hR.loose h, (hR.dot h).eq]

/-- Two strings of characters of class `p`, related character by character. -/
def AlikeIn (p : Char → Bool) (R : Char → Char → Prop) (s t : String) : Prop :=
  List.Forall₂ (fun a b => R a b ∧ p a = true) s.toList t.toList

theorem alikeIn_ofList {p : Char → Bool} {R : Char → Char → Prop} {s t : List Char}
    (h : List.Forall₂ (fun a b => R a b ∧ p a = true) s t) :
    AlikeIn p R (String.ofList s) (String.ofList t) := by
  rwa [AlikeIn, String.toList_ofList, String.toList_ofList]

theorem AlikeIn.mono {p q : Char → Bool} (hpq : ∀ c, p c = true → q c = true)
    {R : Char → Char → Prop} {s t : String} (h : AlikeIn p R s t) : AlikeIn q R s t :=
  h.imp fun _ _ hab => ⟨hab.1, hpq _ hab.2⟩

/-! ## Reading words and keywords -/

section Words

variable {R : Char → Char → Prop} (hR : Indistinct R)
include hR

theorem dropWord_indistinct {w : List Char} (hw : ∀ k ∈ w, Text.isBlank k = false)
    {cs cs' : List Char} (h : List.Forall₂ R cs cs') :
    Option.Rel (List.Forall₂ R) (dropWord w cs) (dropWord w cs') := by
  induction w generalizing cs cs' with
  | nil => exact .some h
  | cons k w ih =>
    cases h with
    | nil => exact .none
    | @cons c c' cs cs' hc h =>
      simp only [dropWord, hR.spells (hw k List.mem_cons_self) hc]
      split
      · exact ih (fun k' hk' => hw k' (List.mem_cons_of_mem _ hk')) h
      · exact .none

theorem dropBlanks_indistinct {cs cs' : List Char} (h : List.Forall₂ R cs cs') :
    Option.Rel (List.Forall₂ R) (dropBlanks cs) (dropBlanks cs') := by
  cases h with
  | nil => exact .none
  | @cons c c' cs cs' hc h =>
    simp only [dropBlanks, hR.blank hc]
    split
    · exact .some (forall₂_dropWhile (fun h => hR.blank h) (.cons hc h))
    · exact .none

theorem dropPhrase_indistinct {ws : List (List Char)} (hws : Solid ws) {cs cs' : List Char}
    (h : List.Forall₂ R cs cs') :
    Option.Rel (List.Forall₂ R) (dropPhrase ws cs) (dropPhrase ws cs') := by
  induction ws generalizing cs cs' with
  | nil => exact .some h
  | cons w ws ih =>
    have hw := (hws.2 w List.mem_cons_self).2
    cases ws with
    | nil => exact dropWord_indistinct hR hw h
    | cons w' ws =>
      have hrest : Solid (w' :: ws) :=
        ⟨List.cons_ne_nil _ _, fun v hv => hws.2 v (List.mem_cons_of_mem _ hv)⟩
      -- a word, a run of blanks, then the rest of the phrase
      have hword := dropWord_indistinct hR hw h
      simp only [dropPhrase]
      generalize dropWord w cs = x at hword ⊢
      generalize dropWord w cs' = x' at hword ⊢
      cases hword with
      | none => exact .none
      | @some r r' hr =>
        have hblanks := dropBlanks_indistinct hR hr
        dsimp only
        generalize dropBlanks r = y at hblanks ⊢
        generalize dropBlanks r' = y' at hblanks ⊢
        cases hblanks with
        | none => exact .none
        | some hr' => exact ih hrest hr'

theorem opensAfterBlank_indistinct {u u' : List Char} (h : List.Forall₂ R u u') :
    opensAfterBlank u = opensAfterBlank u' := by
  cases h with
  | nil => rfl
  | cons hc _ => exact hR.blank hc

theorem boundaryAfter_indistinct {p p' : Option Char} (h : Option.Rel R p p') :
    boundaryAfter p = boundaryAfter p' := by
  cases h with
  | none => rfl
  | some hc => simp only [boundaryAfter, hR.boundary hc]

/-- The plain run ending related texts: related, and plain. -/
theorem trailingPlain_indistinct {cs cs' : List Char} (h : List.Forall₂ R cs cs') :
    List.Forall₂ (fun a b => R a b ∧ isPlain a = true) (trailingPlain cs) (trailingPlain cs') := by
  unfold trailingPlain
  exact List.forall₂_reverse_iff.mpr
    (forall₂_takeWhile_and (fun h => hR.plain h) (List.forall₂_reverse_iff.mpr h))

end Words

/-! ## The alias scan -/

/-- Without a capital sigma, lowercasing is character by character. -/
theorem Text.lowerFrom_eq_flatMap (before : List Char) {s : List Char} (h : 'Σ' ∉ s) :
    Text.lowerFrom before s = s.flatMap Text.lowerChar := by
  induction s generalizing before with
  | nil => rfl
  | cons c s ih =>
    have hc : c ≠ 'Σ' := fun hc => h (hc ▸ List.mem_cons_self)
    rw [Text.lowerFrom, if_neg hc, ih _ fun hs => h (List.mem_cons_of_mem c hs),
      List.flatMap_cons]

/-- A keyword word with no blank letter, checked as a Boolean. -/
theorem notBlank_of_all {w : List Char} (h : (w.all fun k => !Text.isBlank k) = true) :
    ∀ k ∈ w, Text.isBlank k = false := by
  intro k hk
  simpa using List.all_eq_true.mp h k hk

namespace Alias

theorem notBlank_opener (o : Opener) : ∀ k ∈ o.word, Text.isBlank k = false := by
  cases o <;> exact notBlank_of_all (by decide +kernel)

/-- A run of `p`-characters taken from related texts: related and of class `p`, with related
rests. -/
theorem takeRun_indistinct {R : Char → Char → Prop} {p : Char → Bool}
    (hp : ∀ {a b}, R a b → p a = p b) {cs cs' : List Char} (h : List.Forall₂ R cs cs') :
    Option.Rel (fun x y => List.Forall₂ (fun a b => R a b ∧ p a = true) x.1 y.1 ∧
        List.Forall₂ R x.2 y.2)
      (takeRun p cs) (takeRun p cs') := by
  have hrun := forall₂_takeWhile_and (fun hab => hp hab) h
  have hrest := forall₂_dropWhile (fun hab => hp hab) h
  unfold takeRun
  rw [List.span_eq_takeWhile_dropWhile, List.span_eq_takeWhile_dropWhile]
  generalize cs.takeWhile p = run at hrun ⊢
  generalize cs'.takeWhile p = run' at hrun ⊢
  cases hrun with
  | nil => exact .none
  | cons ha hrun => exact .some ⟨.cons ha hrun, hrest⟩

/-- What two matches of a binding shape read alike: references related character by
character and made of reference characters, aliases related and made of loose word
characters. -/
def MatchAlike (R : Char → Char → Prop) (x y : String × String) : Prop :=
  AlikeIn isReferenceChar R x.1 y.1 ∧ AlikeIn isLoose R x.2 y.2

/-- **A scan reads related texts alike when its pattern does**: its matches stand at the same
places and are related.  The induction follows the scan; the two texts are consumed by the
same lengths since related texts have the same length. -/
theorem searchAll_indistinct {R : Char → Char → Prop} {α : Type}
    {m : Option Char → List Char → Option (α × List Char)} (hm : Consumes m) {S : α → α → Prop}
    (hrel : ∀ {prev prev' cs cs'}, Option.Rel R prev prev' → List.Forall₂ R cs cs' →
      Option.Rel (fun x y => S x.1 y.1 ∧ List.Forall₂ R x.2 y.2) (m prev cs) (m prev' cs'))
    {pos : Nat} {prev prev' : Option Char} {cs cs' : List Char} (hp : Option.Rel R prev prev')
    (h : List.Forall₂ R cs cs') :
    List.Forall₂ (fun x y => x.1 = y.1 ∧ S x.2 y.2) (searchAll m pos prev cs)
      (searchAll m pos prev' cs') := by
  induction pos, prev, cs using searchAll.induct m generalizing prev' cs' with
  | case1 pos prev =>
    cases h
    simp only [searchAll]
    exact .nil
  | case2 pos prev c tl a₀ rest₀ hmatch _ used =>
    rename_i ih
    obtain ⟨l, hl, hsplit⟩ := hm _ _ _ _ hmatch
    have hused : used = l.length := by simp only [used, hsplit, List.length_append]; omega
    rw [hused, hsplit, List.take_left] at ih
    have hrel₀ := hrel hp h
    -- the other text matches at its head too, and gives back a related rest
    cases hmatch' : m prev' cs' with
    | none =>
      rw [hmatch, hmatch'] at hrel₀
      exact absurd hrel₀ Option.not_rel_some_none
    | some y =>
      obtain ⟨a', rest'⟩ := y
      rw [hmatch, hmatch', Option.rel_some_some] at hrel₀
      obtain ⟨ha, hrest⟩ : S a₀ a' ∧ List.Forall₂ R rest₀ rest' := hrel₀
      obtain ⟨l', hl', rfl⟩ := hm _ _ _ _ hmatch'
      rw [hsplit] at h hmatch ⊢
      have hlen : l'.length = l.length := by
        have := h.length_eq
        rw [List.length_append, List.length_append, hrest.length_eq] at this
        omega
      have hll : List.Forall₂ R l l' := by
        have := List.forall₂_take l.length h
        rwa [List.take_left, ← hlen, List.take_left] at this
      rw [searchAll_of_match hl hmatch, searchAll_of_match hl' hmatch', hlen]
      exact .cons ⟨rfl, ha⟩ (ih (forall₂_getLast? hll) hrest)
  | case3 pos prev c tl a₀ rest₀ hmatch hlen => exact absurd (hm.shorter hmatch) hlen
  | case4 pos prev c tl hnone ih =>
    cases h with
    | @cons _ c' _ tl' hc htl =>
      have hrel₀ := hrel hp (.cons hc htl)
      rw [hnone] at hrel₀
      cases hnone' : m prev' (c' :: tl') with
      | none =>
        rw [searchAll, hnone, searchAll, hnone']
        exact ih (.some hc) htl
      | some y =>
        rw [hnone'] at hrel₀
        exact absurd hrel₀ Option.not_rel_none_some

section Scan

variable {R : Char → Char → Prop} (hR : Indistinct R)
include hR

theorem matchReference_indistinct (o : Opener) {prev prev' : Option Char}
    (hp : Option.Rel R prev prev') {cs cs' : List Char} (h : List.Forall₂ R cs cs') :
    Option.Rel (fun x y => AlikeIn isReferenceChar R x.1 y.1 ∧ List.Forall₂ R x.2 y.2)
      (matchReference o prev cs) (matchReference o prev' cs') := by
  simp only [matchReference, Option.bind_eq_bind, boundaryAfter_indistinct hR hp]
  cases boundaryAfter prev'
  · exact .none
  · simp only [guard, if_true, Option.pure_def, Option.bind_some]
    refine optionRel_bind (dropWord_indistinct hR (notBlank_opener o) h) fun hr => ?_
    refine optionRel_bind (dropBlanks_indistinct hR hr) fun hr' => ?_
    refine optionRel_bind (takeRun_indistinct (fun hab => hR.reference hab) hr') fun hx => ?_
    exact .some ⟨alikeIn_ofList hx.1, hx.2⟩

theorem aliasTail_indistinct (viaAs : Bool) {r r' : List Char} (h : List.Forall₂ R r r') :
    Option.Rel (fun x y => AlikeIn isLoose R x.1 y.1 ∧ List.Forall₂ R x.2 y.2)
      (aliasTail viaAs r) (aliasTail viaAs r') := by
  simp only [aliasTail, Option.bind_eq_bind]
  refine optionRel_bind (dropBlanks_indistinct hR h) fun hb => ?_
  -- the alias after the blanks, or after `AS` and blanks
  have halias : ∀ {v v' : List Char}, List.Forall₂ R v v' →
      Option.Rel (fun x y => AlikeIn isLoose R x.1 y.1 ∧ List.Forall₂ R x.2 y.2)
        ((takeRun isLoose v).bind fun x => pure (String.ofList x.1, x.2))
        ((takeRun isLoose v').bind fun x => pure (String.ofList x.1, x.2)) := by
    intro v v' hv
    refine optionRel_bind (takeRun_indistinct (fun hab => hR.loose hab) hv) fun hx => ?_
    exact .some ⟨alikeIn_ofList hx.1, hx.2⟩
  cases viaAs
  · simp only [Bool.false_eq_true, if_false, Option.bind_some]
    exact halias hb
  · simp only [if_true]
    refine optionRel_bind (optionRel_bind
      (dropWord_indistinct hR (notBlank_of_all (by decide +kernel)) hb)
        fun hv => dropBlanks_indistinct hR hv) fun hv => halias hv

theorem shapeMatcher_indistinct (o : Opener) (viaAs : Bool) {prev prev' : Option Char}
    (hp : Option.Rel R prev prev') {cs cs' : List Char} (h : List.Forall₂ R cs cs') :
    Option.Rel (fun x y => MatchAlike R x.1 y.1 ∧ List.Forall₂ R x.2 y.2)
      (shapeMatcher o viaAs prev cs) (shapeMatcher o viaAs prev' cs') := by
  unfold shapeMatcher
  rw [matchBinding_eq_bind, matchBinding_eq_bind]
  refine optionRel_map
    (R := fun (f f' : Found) => MatchAlike R (f.reference, f.aliasName) (f'.reference, f'.aliasName) ∧
      List.Forall₂ R f.rest f'.rest)
    (optionRel_bind (matchReference_indistinct hR o hp h) fun hx => ?_) id
  exact optionRel_map (aliasTail_indistinct hR viaAs hx.2) fun hy => ⟨⟨hx.1, hy.1⟩, hy.2⟩

theorem shapeMatches_indistinct (o : Opener) (viaAs : Bool) {cs cs' : List Char}
    (h : List.Forall₂ R cs cs') :
    List.Forall₂ (fun x y => x.1 = y.1 ∧ MatchAlike R x.2 y.2) (shapeMatches o viaAs cs)
      (shapeMatches o viaAs cs') := by
  rw [shapeMatches_eq, shapeMatches_eq]
  exact searchAll_indistinct (consumes_shapeMatcher o viaAs)
    (fun hp hcs => shapeMatcher_indistinct hR o viaAs hp hcs) .none h

/-- A reference and its parts are lowercased alike: they hold no capital sigma. -/
theorem lowerString_indistinct {s t : String} (h : AlikeIn isReferenceChar R s t) :
    Text.lowerString s = Text.lowerString t := by
  have hsigma : ∀ {u : String}, (∀ c ∈ u.toList, isReferenceChar c = true) → 'Σ' ∉ u.toList :=
    fun hu hmem => absurd (hu _ hmem) (by decide)
  have hs := Forall₂.forall_left (P := fun a => isReferenceChar a = true) (fun hab => hab.2) h
  have ht := Forall₂.forall_right (P := fun b => isReferenceChar b = true)
    (fun hab => (hR.reference hab.1).symm.trans hab.2) h
  unfold Text.lowerString Text.lower
  rw [Text.lowerFrom_eq_flatMap _ (hsigma hs), Text.lowerFrom_eq_flatMap _ (hsigma ht),
    forall₂_flatMap (fun hab => hR.lower hab.1 hab.2) h]

/-- Related references split alike: related tables, and related databases or none. -/
theorem splitReference_indistinct {r r' : String} (h : AlikeIn isReferenceChar R r r') :
    AlikeIn isReferenceChar R (splitReference r).1 (splitReference r').1 ∧
      Option.Rel (AlikeIn isReferenceChar R) (splitReference r).2 (splitReference r').2 := by
  -- a reference has no line feed to drop
  have hnl : ∀ {u : String}, (∀ c ∈ u.toList, isReferenceChar c = true) →
      u.toList.getLast? ≠ some '\n' :=
    fun hu hl => absurd (hu _ (List.mem_of_getLast? hl)) (by decide)
  have hs := Forall₂.forall_left (P := fun a => isReferenceChar a = true) (fun hab => hab.2) h
  have ht := Forall₂.forall_right (P := fun b => isReferenceChar b = true)
    (fun hab => (hR.reference hab.1).symm.trans hab.2) h
  have hparts := forall₂_splitOnP (p := (· == '.')) (q := (· == '.'))
    (fun hab => by rw [Bool.eq_iff_iff, beq_iff_eq, beq_iff_eq]; exact hR.dot hab.1) h
  simp only [splitReference]
  rw [if_neg (hnl hs), if_neg (hnl ht), List.splitOn_eq_splitOnP, List.splitOn_eq_splitOnP]
  generalize r.toList.splitOnP (· == '.') = parts at hparts ⊢
  generalize r'.toList.splitOnP (· == '.') = parts' at hparts ⊢
  -- only a split into exactly two parts names a database
  cases hparts with
  | nil => exact ⟨h, .none⟩
  | cons hq hrest =>
    cases hrest with
    | nil => exact ⟨h, .none⟩
    | cons ht hrest =>
      cases hrest with
      | cons _ _ => exact ⟨h, .none⟩
      | nil =>
        rename_i q q' t t'
        have hcond : (q ≠ [] ∧ t ≠ [] ∧ q.all isPlain = true ∧ t.all isPlain = true) ↔
            (q' ≠ [] ∧ t' ≠ [] ∧ q'.all isPlain = true ∧ t'.all isPlain = true) := by
          simp only [ne_eq, Forall₂.eq_nil_iff hq, Forall₂.eq_nil_iff ht, forall₂_all (fun hab => hR.plain hab.1) hq,
            forall₂_all (fun hab => hR.plain hab.1) ht]
        dsimp only
        by_cases hc : q ≠ [] ∧ t ≠ [] ∧ q.all isPlain = true ∧ t.all isPlain = true
        · rw [if_pos hc, if_pos (hcond.mp hc)]
          exact ⟨alikeIn_ofList ht, .some (alikeIn_ofList hq)⟩
        · rw [if_neg hc, if_neg (mt hcond.mpr hc)]
          exact ⟨h, .none⟩

theorem ofMatch_indistinct {x y : String × String} (h : MatchAlike R x y) :
    Binding.ofMatch x.1 x.2 = Binding.ofMatch y.1 y.2 := by
  obtain ⟨htable, hdb⟩ := splitReference_indistinct hR h.1
  have halias : AlikeIn isReferenceChar R x.2 y.2 :=
    AlikeIn.mono (fun c hc => by simp [isReferenceChar, hc]) h.2
  unfold Binding.ofMatch
  generalize splitReference x.1 = u at htable hdb ⊢
  generalize splitReference y.1 = u' at htable hdb ⊢
  obtain ⟨t, d⟩ := u
  obtain ⟨t', d'⟩ := u'
  dsimp only at htable hdb ⊢
  rw [lowerString_indistinct hR htable, lowerString_indistinct hR halias]
  cases hdb with
  | none => rfl
  | some hd => rw [Option.map_some, Option.map_some, lowerString_indistinct hR hd]

theorem isClauseKeyword_indistinct {a a' : String} (h : AlikeIn isLoose R a a') :
    isClauseKeyword a = isClauseKeyword a' := by
  unfold isClauseKeyword Text.upperString Text.upper
  rw [forall₂_flatMap (fun hab => hR.upper hab.1 hab.2) h]

theorem accept_indistinct (viaAs : Bool) {m m' : Nat × String × String}
    (h : m.1 = m'.1 ∧ MatchAlike R m.2 m'.2) : accept viaAs m = accept viaAs m' := by
  unfold accept
  rw [isClauseKeyword_indistinct hR h.2.2, ofMatch_indistinct hR h.2, h.1]

theorem candidates_indistinct {cs cs' : List Char} (h : List.Forall₂ R cs cs')
    (ss : List (Opener × Bool)) : candidates cs ss = candidates cs' ss := by
  unfold candidates
  congr 1
  funext s
  exact forall₂_filterMap (fun hm => accept_indistinct hR s.2 hm)
    (shapeMatches_indistinct hR s.1 s.2 h)

/-- **Related statements have the same alias bindings.** -/
theorem bindings_indistinct {text text' : String} (h : List.Forall₂ R text.toList text'.toList) :
    bindings text = bindings text' := by
  rw [bindings_eq_firstOfKeys, bindings_eq_firstOfKeys, candidates_indistinct hR h]

end Scan

/-- An alias is resolved alike in related statements, looked up by related names. -/
theorem resolve_indistinct {R S : Char → Char → Prop} (hR : Indistinct R) (hS : Indistinct S)
    {q q' : String} (hq : AlikeIn isReferenceChar R q q') {text text' : String}
    (h : List.Forall₂ S text.toList text'.toList) : resolve? q text = resolve? q' text' := by
  unfold resolve? find?
  rw [lowerString_indistinct hR hq, bindings_indistinct hS h]

end Alias

/-! ## Reading the text before the cursor -/

namespace Cursor

/-- No letter of a column keyword is blank. -/
theorem solid_columnKeywords : ∀ p ∈ columnKeywords, Solid (phraseWords p) := by
  decide +kernel

theorem solid_use : Solid (phraseWords "USE") := by
  decide +kernel

section Line

variable {R : Char → Char → Prop} (hR : LineIndistinct R)
include hR

theorem eq_lineFeed_indistinct {x y : Option Char} (h : Option.Rel R x y) :
    x = some '\n' ↔ y = some '\n' := by
  cases h with
  | none => simp
  | some hc => simpa using hR.lineFeed hc

/-- Dropping one final line feed keeps texts related. -/
theorem dropLineFeed_indistinct {s t : List Char} (h : List.Forall₂ R s t) :
    List.Forall₂ R (if s.getLast? = some '\n' then s.dropLast else s)
      (if t.getLast? = some '\n' then t.dropLast else t) := by
  by_cases hs : s.getLast? = some '\n'
  · rw [if_pos hs, if_pos ((eq_lineFeed_indistinct hR (forall₂_getLast? h)).mp hs)]
    exact forall₂_dropLast h
  · rw [if_neg hs, if_neg (mt (eq_lineFeed_indistinct hR (forall₂_getLast? h)).mpr hs)]
    exact h

theorem endings_indistinct {s t : List Char} (h : List.Forall₂ R s t) :
    List.Forall₂ (List.Forall₂ R) (endings s) (endings t) := by
  unfold endings
  by_cases hs : s.getLast? = some '\n'
  · rw [if_pos hs, if_pos ((eq_lineFeed_indistinct hR (forall₂_getLast? h)).mp hs)]
    exact .cons h (.cons (forall₂_dropLast h) .nil)
  · rw [if_neg hs, if_neg (mt (eq_lineFeed_indistinct hR (forall₂_getLast? h)).mpr hs)]
    exact .cons h .nil

theorem endsWithPhrase_indistinct {p : String} (hp : Solid (phraseWords p)) (bare : Bool)
    {r r' : List Char} (h : List.Forall₂ R r r') :
    endsWithPhrase p bare r = endsWithPhrase p bare r' := by
  -- the bare test: the phrase read backwards, then the opening before it
  have atEnd : ∀ {u u' : List Char}, List.Forall₂ R u u' →
      endsWithPhrase p true u = endsWithPhrase p true u' := by
    intro u u' hu
    have hd : Option.Rel (List.Forall₂ R) (dropPhrase (reversedPhrase p) u)
        (dropPhrase (reversedPhrase p) u') :=
      dropPhrase_indistinct hR.toIndistinct hp.reverse hu
    unfold endsWithPhrase
    simp only [if_pos]
    generalize dropPhrase (reversedPhrase p) u = x at hd ⊢
    generalize dropPhrase (reversedPhrase p) u' = x' at hd ⊢
    cases hd with
    | none => rfl
    | some hb => exact opensAfterBlank_indistinct hR.toIndistinct hb
  unfold endsWithPhrase
  cases bare
  · have hb := dropBlanks_indistinct hR.toIndistinct
      (forall₂_dropWhile (fun h => hR.loose h) h)
    simp only [Bool.false_eq_true, if_false]
    generalize dropBlanks (r.dropWhile isLoose) = x at hb ⊢
    generalize dropBlanks (r'.dropWhile isLoose) = x' at hb ⊢
    cases hb with
    | none => rfl
    | some hr => exact atEnd hr
  · exact atEnd h

theorem endsWithKeyword_indistinct {p : String} (hp : Solid (phraseWords p)) (optional : Bool)
    {s t : List Char} (h : List.Forall₂ R s t) :
    endsWithKeyword p optional s = endsWithKeyword p optional t := by
  unfold endsWithKeyword
  refine forall₂_any (fun hu => ?_) (endings_indistinct hR h)
  have hr := List.forall₂_reverse_iff.mpr hu
  rw [endsWithPhrase_indistinct hR hp true hr, endsWithPhrase_indistinct hR hp false hr]

theorem opensSelect_indistinct {prev prev' : Option Char} (hp : Option.Rel R prev prev')
    {cs cs' : List Char} (h : List.Forall₂ R cs cs') :
    opensSelect prev cs = opensSelect prev' cs' := by
  induction h generalizing prev prev' with
  | nil => rfl
  | @cons c c' rest rest' hc hrest ih =>
    have hsel : ∀ k ∈ "SELECT".toList, Text.isBlank k = false := by
      have hall : ("SELECT".toList.all fun k => !Text.isBlank k) = true := by decide +kernel
      intro k hk
      simpa using List.all_eq_true.mp hall k hk
    have hword := dropWord_indistinct hR.toIndistinct hsel (List.Forall₂.cons hc hrest)
    simp only [opensSelect]
    rw [boundaryAfter_indistinct hR.toIndistinct hp, ih (.some hc)]
    generalize dropWord "SELECT".toList (c :: rest) = x at hword ⊢
    generalize dropWord "SELECT".toList (c' :: rest') = x' at hword ⊢
    -- after the word, the same answer to "is a blank next"
    cases hword with
    | none => rfl
    | some hafter =>
      cases hafter with
      | nil => rfl
      | cons hb _ => simp only [hR.blank hb]

theorem endsInSelectList_indistinct {s t : List Char} (h : List.Forall₂ R s t) :
    endsInSelectList s = endsInSelectList t := by
  unfold endsInSelectList
  refine forall₂_any (fun hu => ?_) (endings_indistinct hR h)
  have hback := forall₂_dropWhile (fun h => hR.blank h)
    (forall₂_dropWhile (fun h => hR.loose h) (List.forall₂_reverse_iff.mpr hu))
  generalize (List.dropWhile isLoose _).dropWhile Text.isBlank = x at hback ⊢
  generalize (List.dropWhile isLoose _).dropWhile Text.isBlank = x' at hback ⊢
  -- the comma before the partial word is seen on both sides or on neither
  cases hback with
  | nil => rfl
  | @cons a a' before before' ha hbefore =>
    by_cases hcomma : a = ','
    · obtain rfl := hcomma
      obtain rfl := (hR.comma ha).mp rfl
      exact opensSelect_indistinct hR .none (List.forall₂_reverse_iff.mpr hbefore)
    · have hcomma' : a' ≠ ',' := mt (hR.comma ha).mpr hcomma
      split <;> simp_all

theorem afterTableKeyword_indistinct {s t : List Char} (h : List.Forall₂ R s t) :
    afterTableKeyword s = afterTableKeyword t := by
  unfold afterTableKeyword
  exact any_congr_of_mem fun p hp => endsWithKeyword_indistinct hR (solid_tableKeywords p hp) _ h

theorem afterColumnKeyword_indistinct {s t : List Char} (h : List.Forall₂ R s t) :
    afterColumnKeyword s = afterColumnKeyword t := by
  unfold afterColumnKeyword
  rw [endsInSelectList_indistinct hR h,
    any_congr_of_mem fun p hp => endsWithKeyword_indistinct hR (solid_columnKeywords p hp) _ h]

theorem afterUse_indistinct {s t : List Char} (h : List.Forall₂ R s t) :
    afterUse s = afterUse t :=
  endsWithKeyword_indistinct hR solid_use _ h

theorem partialWord_indistinct {s t : List Char} (h : List.Forall₂ R s t) :
    List.Forall₂ (fun a b => R a b ∧ isPlain a = true) (partialWord s) (partialWord t) :=
  trailingPlain_indistinct hR.toIndistinct (dropLineFeed_indistinct hR h)

/-- The qualified names ending related texts: both absent, or related qualifiers and words
of plain characters starting at the same position. -/
theorem qualifiedTail_indistinct {s t : List Char} (h : List.Forall₂ R s t) :
    Option.Rel (fun x y => AlikeIn isPlain R x.1 y.1 ∧ AlikeIn isPlain R x.2.1 y.2.1 ∧
        x.2.2 = y.2.2)
      (qualifiedTail s) (qualifiedTail t) := by
  have hu := dropLineFeed_indistinct hR h
  simp only [qualifiedTail]
  generalize (if s.getLast? = some '\n' then s.dropLast else s) = u at hu ⊢
  generalize (if t.getLast? = some '\n' then t.dropLast else t) = u' at hu ⊢
  have hw := trailingPlain_indistinct hR.toIndistinct hu
  have hstart : u.length - (trailingPlain u).length = u'.length - (trailingPlain u').length := by
    rw [hu.length_eq, hw.length_eq]
  have hbefore : List.Forall₂ R (u.take (u.length - (trailingPlain u).length)).reverse
      (u'.take (u'.length - (trailingPlain u').length)).reverse := by
    rw [hstart]
    exact List.forall₂_reverse_iff.mpr (List.forall₂_take _ hu)
  generalize trailingPlain u = w at hw hstart hbefore ⊢
  generalize trailingPlain u' = w' at hw hstart hbefore ⊢
  generalize (u.take (u.length - w.length)).reverse = x at hbefore ⊢
  generalize (u'.take (u'.length - w'.length)).reverse = x' at hbefore ⊢
  -- the dot before the word is seen on both sides or on neither
  cases hbefore with
  | nil => exact .none
  | @cons a a' before before' ha hrest =>
    by_cases hdot : a = '.'
    · obtain rfl := hdot
      obtain rfl := (hR.dot ha).mp rfl
      have hq := List.forall₂_reverse_iff.mpr
        (forall₂_takeWhile_and (fun h => hR.plain h) hrest)
      split
      case h_2 hne => exact absurd rfl (hne before)
      rename_i before₀ hb
      obtain rfl := (List.cons.inj hb).2
      generalize (before.takeWhile isPlain).reverse = q at hq ⊢
      generalize (before'.takeWhile isPlain).reverse = q' at hq ⊢
      cases hq with
      | nil => exact .none
      | cons hc hq =>
        refine .some ⟨?_, ?_, ?_⟩
        · exact alikeIn_ofList (.cons hc hq)
        · exact alikeIn_ofList hw
        · simp only [hu.length_eq, hw.length_eq, hq.length_eq, List.length_cons]
    · have hdot' : a' ≠ '.' := mt (hR.dot ha).mpr hdot
      split <;> simp_all

end Line

/-! ## The context under the cursor -/

/-- Two contexts alike up to `R`: the same kind of name expected; the word typed so far and
the alias related character by character and made of plain characters; without an alias, the
database and table too; with one, the same table and database. -/
structure Context.Alike (R : Char → Char → Prop) (c c' : Context) : Prop where
  expect : c.expect = c'.expect
  word : AlikeIn isPlain R c.word c'.word
  viaAlias : Option.Rel (AlikeIn isPlain R) c.viaAlias c'.viaAlias
  named : c.viaAlias = none → Option.Rel (AlikeIn isPlain R) c.database c'.database ∧
    Option.Rel (AlikeIn isPlain R) c.table c'.table
  resolved : c.viaAlias ≠ none → c.database = c'.database ∧ c.table = c'.table

theorem Context.Alike.unaliased {R : Char → Char → Prop} {e : Expect} {w w' : String}
    {d d' t t' : Option String} (hw : AlikeIn isPlain R w w')
    (hd : Option.Rel (AlikeIn isPlain R) d d') (ht : Option.Rel (AlikeIn isPlain R) t t') :
    Context.Alike R ⟨e, w, d, t, none⟩ ⟨e, w', d', t', none⟩ :=
  ⟨rfl, hw, .none, fun _ => ⟨hd, ht⟩, fun h => absurd rfl h⟩

theorem String.isEmpty_eq_of_forall₂ {R : Char → Char → Prop} {s t : String}
    (h : List.Forall₂ R s.toList t.toList) : s.isEmpty = t.isEmpty := by
  rw [Bool.eq_iff_iff, String.isEmpty_iff, String.isEmpty_iff, ← String.toList_eq_nil_iff,
    ← String.toList_eq_nil_iff]
  exact Forall₂.eq_nil_iff h

/-- **Related lines and statements give alike contexts**: the line related character by
character up to the cursor by a relation none of the line's tests can see, the statement by one
none of the alias scan's tests can see. -/
theorem parse_indistinct {R S : Char → Char → Prop} (hR : LineIndistinct R)
    (hS : Indistinct S) {line line' : String} {cursor : Int} {query query' : Option String}
    (hl : List.Forall₂ R (line.toList.take cursor.toNat) (line'.toList.take cursor.toNat))
    (hq : Option.Rel (fun s t => List.Forall₂ S s.toList t.toList) query query') :
    (parse line cursor query).Alike R (parse line' cursor query') := by
  simp only [parse]
  generalize line.toList.take cursor.toNat = b at hl ⊢
  generalize line'.toList.take cursor.toNat = b' at hl ⊢
  have hword := alikeIn_ofList (partialWord_indistinct hR hl)
  have htail := qualifiedTail_indistinct hR hl
  generalize qualifiedTail b = x at htail ⊢
  generalize qualifiedTail b' = x' at htail ⊢
  cases htail with
  | none =>
    -- no qualified name: the keyword tests decide, alike on both lines
    dsimp only
    rw [afterUse_indistinct hR hl, afterTableKeyword_indistinct hR hl,
      afterColumnKeyword_indistinct hR hl]
    split_ifs <;> exact .unaliased hword .none .none
  | @some x x' hx =>
    obtain ⟨q, p, start⟩ := x
    obtain ⟨q', p', start'⟩ := x'
    obtain ⟨hq', hp', rfl⟩ := hx
    -- without an alias, the character before the qualifier and the keyword before it decide
    have hpre := List.forall₂_take start hl
    have hblank : ((b.take start).getLast?.map Text.isBlank).getD false =
        ((b'.take start).getLast?.map Text.isBlank).getD false := by
      have hlast := forall₂_getLast? hpre
      generalize (b.take start).getLast? = c at hlast ⊢
      generalize (b'.take start).getLast? = c' at hlast ⊢
      cases hlast with
      | none => rfl
      | some hc => rw [Option.map_some, Option.map_some, hR.blank hc]
    have hafter := afterTableKeyword_indistinct hR (forall₂_dropLast hpre)
    have hunaliased : Context.Alike R
        (if ((b.take start).getLast?.map Text.isBlank).getD false &&
            afterTableKeyword (b.take start).dropLast then ⟨.table, p, some q, none, none⟩
          else ⟨.column, p, none, some q, none⟩)
        (if ((b'.take start).getLast?.map Text.isBlank).getD false &&
            afterTableKeyword (b'.take start).dropLast then ⟨.table, p', some q', none, none⟩
          else ⟨.column, p', none, some q', none⟩) := by
      rw [hblank, hafter]
      split_ifs
      · exact .unaliased hp' (.some hq') .none
      · exact .unaliased hp' .none (.some hq')
    cases hq with
    | none => exact hunaliased
    | @some text text' htext =>
      dsimp only
      rw [String.isEmpty_eq_of_forall₂ htext, resolve_indistinct hR.toIndistinct hS
        (hq'.mono fun c hc => by simp [isReferenceChar, isLoose, hc]) htext]
      generalize (if text'.isEmpty = true then none else resolve? q' text') = v
      cases v with
      | none => exact hunaliased
      | some r =>
        obtain ⟨t, d⟩ := r
        exact ⟨rfl, hp', .some hq', fun h => absurd h (by simp), fun _ => ⟨rfl, rfl⟩⟩

end Cursor

end SqlAssist
