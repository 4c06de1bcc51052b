import SqlAssist.Proofs.Aliases
import SqlAssist.Proofs.Keywords

/-!
# Table names and alias bindings

Two scans read the table references of a statement.  The alias scan (`bindings`) reads each
binding shape, `FROM` or `JOIN`, a reference and an alias, and splits the reference into a
database and a table only when it is exactly two plain words around a dot.  The table-name
scan (`tableNames`) reads `FROM` or `JOIN` and a reference, and keeps the last dotted part
of the reference.

Both scans search their pattern left to right, a new search starting where the last match
ended (`searchAll`).  Such a scan finds a match exactly where its pattern matches, except
where that place lies inside an earlier match (`searchAll_sound`, `searchAll_covers`).  The
alias patterns consume more than the table-name pattern, so the two scans do not stop at
the same places: in `FROM FROM t AS c` the table-name scan reads the second `FROM` as the
reference of the first, while the alias scan, finding no alias shape there, starts again
right after the first `FROM` and binds `c` to `t`.

## Main statements

* `searchAll_sound`, `searchAll_covers`: what a scan finds.
* `splitReference_eq_bareName`: on a plain reference, a word or two words around a dot, the
  two scans read the same table.
* `binding_table_mem_tableNames`: the table of every binding is a table name, unless its
  reference is not plain or its keyword lies inside a reference that the table-name scan
  read; on a plain reference the two scans read the same table.
* `bindings_beyond_tableNames`: two statements where a binding's table is no table name.
-/

namespace SqlAssist.Alias

open Word

/-! ## Scanning a text for the matches of a pattern -/

section Scan

variable {α : Type} {m : Option Char → List Char → Option (α × List Char)}

/-- The character before position `i` of `cs`, when `prev` stands before `cs`. -/
def charBefore (prev : Option Char) (cs : List Char) (i : Nat) : Option Char :=
  (cs.take i).getLast?.or prev

@[simp] theorem charBefore_zero (prev : Option Char) (cs : List Char) :
    charBefore prev cs 0 = prev := by
  simp [charBefore]

theorem charBefore_cons_succ (prev : Option Char) (c : Char) (tl : List Char) (i : Nat) :
    charBefore prev (c :: tl) (i + 1) = charBefore (some c) tl i := by
  simp only [charBefore, List.take_succ_cons, List.getLast?_cons]
  cases (tl.take i).getLast? <;> rfl

/-- Past a consumed head `l`, the character before a position of the rest is the one before
the same place in the whole text. -/
theorem charBefore_append (prev : Option Char) {l : List Char} (hl : l ≠ []) (rest : List Char)
    (i : Nat) : charBefore prev (l ++ rest) (l.length + i) = charBefore l.getLast? rest i := by
  obtain ⟨c, hc⟩ : ∃ c, l.getLast? = some c := Option.isSome_iff_exists.mp (by simpa using hl)
  simp only [charBefore, List.take_length_add_append, List.getLast?_append, hc]
  cases (rest.take i).getLast? <;> rfl

/-- A pattern that, where it matches, consumes a nonempty head of the text and gives back
the rest. -/
def Consumes (m : Option Char → List Char → Option (α × List Char)) : Prop :=
  ∀ prev cs a rest, m prev cs = some (a, rest) → ∃ l, l ≠ [] ∧ cs = l ++ rest

theorem Consumes.shorter (hm : Consumes m) {prev : Option Char} {cs rest : List Char} {a : α}
    (h : m prev cs = some (a, rest)) : rest.length < cs.length := by
  obtain ⟨l, hl, rfl⟩ := hm _ _ _ _ h
  rw [List.length_append]
  exact Nat.lt_add_of_pos_left (List.length_pos_of_ne_nil hl)

/-- One turn of a scan that matches at the head: the match, then the scan of the rest. -/
theorem searchAll_of_match {pos : Nat} {prev : Option Char} {l rest : List Char}
    {a : α} (hl : l ≠ []) (h : m prev (l ++ rest) = some (a, rest)) :
    searchAll m pos prev (l ++ rest) = (pos, a) :: searchAll m (pos + l.length) l.getLast? rest := by
  obtain ⟨c, tl, hct⟩ := List.exists_cons_of_ne_nil hl
  have hlen : rest.length < l.length + rest.length :=
    Nat.lt_add_of_pos_left (List.length_pos_of_ne_nil hl)
  rw [hct, List.cons_append] at h ⊢
  rw [searchAll, h]
  simp only [← List.cons_append, ← hct, List.length_append, Nat.add_sub_cancel, List.take_left]
  rw [dif_pos hlen]

/-- **A scan finds a match only where its pattern matches**, with the character before that
place. -/
theorem searchAll_sound (hm : Consumes m) {pos : Nat} {prev : Option Char} {cs : List Char}
    {q : Nat} {a : α} (h : (q, a) ∈ searchAll m pos prev cs) :
    ∃ i < cs.length, q = pos + i ∧ ∃ rest, m (charBefore prev cs i) (cs.drop i) = some (a, rest) := by
  induction pos, prev, cs using searchAll.induct m with
  | case1 pos prev => simp [searchAll] at h
  | case2 pos prev c tl a₀ rest₀ hmatch _ used ih =>
    obtain ⟨l, hl, hsplit⟩ := hm _ _ _ _ hmatch
    have hused : used = l.length := by simp only [used, hsplit, List.length_append]; omega
    rw [hused, hsplit, List.take_left] at ih
    rw [hsplit] at hmatch h ⊢
    rw [searchAll_of_match hl hmatch] at h
    rcases List.mem_cons.mp h with he | h
    · -- the match at the head
      obtain ⟨rfl, rfl⟩ := Prod.mk.inj he
      exact ⟨0, by simp [List.length_pos_of_ne_nil hl], by simp, rest₀, by simpa using hmatch⟩
    · -- a match of the rest, shifted past the head
      obtain ⟨i, hi, rfl, rest, hi'⟩ := ih h
      refine ⟨l.length + i, by simpa using hi, by omega, rest, ?_⟩
      rwa [charBefore_append prev hl, List.drop_length_add_append]
  | case3 pos prev c tl a₀ rest₀ hmatch hlen => exact absurd (hm.shorter hmatch) hlen
  | case4 pos prev c tl _ ih =>
    rw [searchAll, ‹m prev (c :: tl) = none›] at h
    obtain ⟨i, hi, rfl, rest, hi'⟩ := ih h
    refine ⟨i + 1, by simpa using hi, by omega, rest, ?_⟩
    rwa [charBefore_cons_succ, List.drop_succ_cons]

/-- **A scan finds every place where its pattern matches**, unless that place lies inside an
earlier match: after the start of that match and before the text it gives back. -/
theorem searchAll_covers (hm : Consumes m) {pos : Nat} {prev : Option Char} {cs : List Char}
    {i : Nat} {a : α} {rest : List Char} (hi : i < cs.length)
    (h : m (charBefore prev cs i) (cs.drop i) = some (a, rest)) :
    (∃ a', (pos + i, a') ∈ searchAll m pos prev cs) ∨
      ∃ j a' rest', (pos + j, a') ∈ searchAll m pos prev cs ∧
        m (charBefore prev cs j) (cs.drop j) = some (a', rest') ∧ j < i ∧
          i + rest'.length < cs.length := by
  induction pos, prev, cs using searchAll.induct m generalizing i with
  | case1 pos prev => simp at hi
  | case2 pos prev c tl a₀ rest₀ hmatch _ used =>
    rename_i ih
    obtain ⟨l, hl, hsplit⟩ := hm _ _ _ _ hmatch
    have hused : used = l.length := by simp only [used, hsplit, List.length_append]; omega
    rw [hused, hsplit, List.take_left] at ih
    rw [hsplit] at hmatch hi h ⊢
    rw [searchAll_of_match hl hmatch]
    rw [List.length_append] at hi
    by_cases h0 : i = 0
    · -- the match at the head starts here
      subst h0
      exact .inl ⟨a₀, by simp⟩
    by_cases hin : i < l.length
    · -- the place lies inside the match at the head
      exact .inr ⟨0, a₀, rest₀, by simp, by simpa using hmatch, by omega, by simp; omega⟩
    · -- the place lies in the rest, which is scanned on its own
      obtain ⟨k, rfl⟩ : ∃ k, i = l.length + k := ⟨i - l.length, by omega⟩
      rw [charBefore_append prev hl, List.drop_length_add_append] at h
      rcases ih (by omega) h with ⟨a', ha'⟩ | ⟨j, a', rest', hj, hmj, hjk, hend⟩
      · exact .inl ⟨a', List.mem_cons_of_mem _ (by rwa [Nat.add_assoc] at ha')⟩
      · refine .inr ⟨l.length + j, a', rest', List.mem_cons_of_mem _ (by rwa [Nat.add_assoc] at hj),
          ?_, by omega, by simp; omega⟩
        rwa [charBefore_append prev hl, List.drop_length_add_append]
  | case3 pos prev c tl a₀ rest₀ hmatch hlen => exact absurd (hm.shorter hmatch) hlen
  | case4 pos prev c tl hnone ih =>
    rw [searchAll, hnone]
    cases i with
    | zero => simp [hnone] at h
    | succ k =>
      rw [charBefore_cons_succ, List.drop_succ_cons] at h
      rcases ih (by simpa using hi) h with ⟨a', ha'⟩ | ⟨j, a', rest', hj, hmj, hjk, hend⟩
      · exact .inl ⟨a', by rwa [Nat.add_right_comm] at ha'⟩
      · refine .inr ⟨j + 1, a', rest', by rwa [Nat.add_right_comm] at hj, ?_, by omega,
          by simp; omega⟩
        rwa [charBefore_cons_succ, List.drop_succ_cons]

end Scan

/-! ## The two patterns -/

theorem takeRun_append {p : Char → Bool} {cs run rest : List Char}
    (h : takeRun p cs = some (run, rest)) : run ≠ [] ∧ cs = run ++ rest := by
  unfold takeRun at h
  rw [List.span_eq_takeWhile_dropWhile] at h
  split at h
  · cases h
  · next hne =>
    obtain ⟨rfl, rfl⟩ := Prod.mk.inj (Option.some.inj h)
    exact ⟨fun h => hne _ (by rw [h]), List.takeWhile_append_dropWhile.symm⟩

theorem matchReference_eq_some {o : Opener} {prev : Option Char} {cs : List Char} {r : String}
    {rest : List Char} :
    matchReference o prev cs = some (r, rest) ↔ boundaryAfter prev = true ∧
      ∃ r₁, dropWord o.word cs = some r₁ ∧ ∃ r₂, dropBlanks r₁ = some r₂ ∧
        ∃ ref rest', takeRun isReferenceChar r₂ = some (ref, rest') ∧ String.ofList ref = r ∧
          rest' = rest := by
  simp only [matchReference, Option.bind_eq_bind, Option.bind_eq_some_iff, Option.guard_eq_some',
    pure, Option.some.injEq, exists_const, Prod.exists, Prod.mk.injEq]

/-- The table-name pattern consumes the keyword, the blanks and the reference it reads. -/
theorem consumes_matchReference (o : Opener) : Consumes (matchReference o) := by
  intro prev cs r rest h
  obtain ⟨-, r₁, hw, r₂, hb, ref, rest', hrun, -, rfl⟩ := matchReference_eq_some.mp h
  obtain ⟨s, -, rfl⟩ := dropWord_eq_some_iff.mp hw
  obtain ⟨g, -, rfl, -⟩ := dropBlanks_eq_some_iff.mp hb
  obtain ⟨hne, rfl⟩ := takeRun_append hrun
  exact ⟨s ++ g ++ ref, by simp [hne], by simp⟩

/-- What a binding shape reads after the reference: blanks, then `AS` and blanks when
`viaAs`, then the alias. -/
def aliasTail (viaAs : Bool) (r : List Char) : Option (String × List Char) := do
  let r ← Word.dropBlanks r
  let r ← if viaAs then Word.dropWord "AS".toList r >>= Word.dropBlanks else some r
  let (aliasName, r) ← takeRun Word.isLoose r
  pure (String.ofList aliasName, r)

/-- **A binding shape is the table-name pattern followed by an alias.** -/
theorem matchBinding_eq_bind (o : Opener) (viaAs : Bool) (prev : Option Char) (cs : List Char) :
    matchBinding o viaAs prev cs = (matchReference o prev cs).bind fun x =>
      (aliasTail viaAs x.2).map fun y => ⟨x.1, y.1, y.2⟩ := by
  cases viaAs <;>
    simp only [matchBinding, matchReference, aliasTail, Option.bind_eq_bind, Option.bind_assoc,
      Option.pure_def, Option.bind_some, Option.map_bind, Option.map_some, Bool.false_eq_true,
      if_false, if_true, Function.comp_def]

/-- What follows the reference is given back after the alias. -/
theorem aliasTail_suffix {viaAs : Bool} {r rest : List Char} {a : String}
    (h : aliasTail viaAs r = some (a, rest)) : ∃ l, r = l ++ rest := by
  cases viaAs <;>
    simp only [aliasTail, Option.bind_eq_bind, Option.bind_eq_some_iff, Option.pure_def,
      Bool.false_eq_true, if_false, if_true, Option.bind_some, Option.some.injEq, Prod.exists,
      Prod.mk.injEq] at h
  · obtain ⟨r₁, hb, al, rest', hrun, -, rfl⟩ := h
    obtain ⟨g, -, rfl, -⟩ := dropBlanks_eq_some_iff.mp hb
    obtain ⟨-, rfl⟩ := takeRun_append hrun
    exact ⟨g ++ al, by simp⟩
  · -- `AS` and its blanks come off the head as well
    obtain ⟨r₁, hb, r₂, ⟨r₃, hw, hb'⟩, al, rest', hrun, -, rfl⟩ := h
    obtain ⟨g, -, rfl, -⟩ := dropBlanks_eq_some_iff.mp hb
    obtain ⟨s, -, rfl⟩ := dropWord_eq_some_iff.mp hw
    obtain ⟨g', -, rfl, -⟩ := dropBlanks_eq_some_iff.mp hb'
    obtain ⟨-, rfl⟩ := takeRun_append hrun
    exact ⟨g ++ s ++ g' ++ al, by simp⟩

/-- A binding shape reads the reference the table-name pattern reads at the same place. -/
theorem matchReference_of_matchBinding {o : Opener} {viaAs : Bool} {prev : Option Char}
    {cs : List Char} {f : Found} (h : matchBinding o viaAs prev cs = some f) :
    ∃ rest, matchReference o prev cs = some (f.reference, rest) ∧ ∃ l, rest = l ++ f.rest := by
  rw [matchBinding_eq_bind, Option.bind_eq_some_iff] at h
  obtain ⟨⟨r, rest⟩, href, hmap⟩ := h
  obtain ⟨⟨a, rest'⟩, htail, rfl⟩ := Option.map_eq_some_iff.mp hmap
  exact ⟨rest, href, aliasTail_suffix htail⟩

/-- The matcher a binding shape scans with. -/
def shapeMatcher (o : Opener) (viaAs : Bool) (prev : Option Char) (t : List Char) :
    Option ((String × String) × List Char) :=
  (matchBinding o viaAs prev t).map fun f => ((f.reference, f.aliasName), f.rest)

theorem shapeMatches_eq (o : Opener) (viaAs : Bool) (cs : List Char) :
    shapeMatches o viaAs cs = searchAll (shapeMatcher o viaAs) 0 none cs := rfl

/-- A binding shape consumes at least what the table-name pattern consumes. -/
theorem consumes_shapeMatcher (o : Opener) (viaAs : Bool) : Consumes (shapeMatcher o viaAs) := by
  intro prev cs a rest h
  obtain ⟨f, hf, hfa⟩ := Option.map_eq_some_iff.mp h
  obtain ⟨rest₀, href, l, rfl⟩ := matchReference_of_matchBinding hf
  obtain ⟨l₀, hl₀, rfl⟩ := consumes_matchReference o _ _ _ _ href
  obtain ⟨-, rfl⟩ := Prod.mk.inj hfa
  exact ⟨l₀ ++ l, by simp [hl₀], by simp⟩

/-! ## Plain references -/

/-- A plain reference: a word of plain characters, or two such words around one dot. -/
inductive PlainReference : List Char → Prop
  | word {t : List Char} : t ≠ [] → (∀ c ∈ t, isPlain c = true) → PlainReference t
  | qualified {d t : List Char} : d ≠ [] → (∀ c ∈ d, isPlain c = true) → t ≠ [] →
      (∀ c ∈ t, isPlain c = true) → PlainReference (d ++ '.' :: t)

theorem not_mem_of_plain {t : List Char} {c : Char} (ht : ∀ c ∈ t, isPlain c = true)
    (hc : isPlain c = false) : c ∉ t := fun hmem => by
  rw [ht c hmem] at hc
  cases hc

/-- Leading dots: a text that starts with a plain character has none. -/
theorem dropWhile_dot_of_head {l : List Char} (hne : l ≠ []) (h : isPlain (l.head hne) = true) :
    l.dropWhile (· = '.') = l := by
  obtain ⟨c, rest, rfl⟩ := List.exists_cons_of_ne_nil hne
  have hc : c ≠ '.' := by
    rintro rfl
    cases h
  simp [List.dropWhile_cons_of_neg, hc]

/-- Dropping dots at both ends keeps a text that starts and ends with a plain character. -/
theorem trim_dots_of_plain_ends {cs : List Char} (hne : cs ≠ []) (hc : isPlain (cs.head hne) = true)
    (he : isPlain (cs.getLast hne) = true) :
    ((cs.dropWhile (· = '.')).reverse.dropWhile (· = '.')).reverse = cs := by
  have hrne : cs.reverse ≠ [] := by simpa using hne
  rw [dropWhile_dot_of_head hne hc, dropWhile_dot_of_head hrne (by rwa [List.head_reverse]),
    List.reverse_reverse]

/-- **On a plain reference the two scans read the same table**: the alias scan's table is
the last dotted part, which the table-name scan keeps, and it is not empty. -/
theorem splitReference_eq_bareName {r : String} (h : PlainReference r.toList) :
    (splitReference r).1 = bareName r ∧ bareName r ≠ "" := by
  have hdot : isPlain '.' = false := by decide
  have hlf : isPlain '\n' = false := by decide
  generalize hr : r.toList = cs at h
  cases h with
  | word hne ht =>
    have hlast : cs.getLast? ≠ some '\n' := by
      rw [List.getLast?_eq_some_getLast hne]
      intro heq
      have hl := ht _ (List.getLast_mem hne)
      rw [Option.some.inj heq, hlf] at hl
      cases hl
    have hsplit : cs.splitOn '.' = [cs] := List.splitOn_eq_singleton (not_mem_of_plain ht hdot)
    have htrim := trim_dots_of_plain_ends hne (ht _ (List.head_mem hne)) (ht _ (List.getLast_mem hne))
    simp only [splitReference, bareName, hr, if_neg hlast, hsplit, htrim, List.getLast?_singleton,
      Option.getD_some]
    rw [← hr, String.ofList_toList]
    refine ⟨rfl, fun hempty => hne ?_⟩
    rw [← hr, hempty, String.toList_empty]
  | @qualified d t hd hdw ht htw =>
    have hne : d ++ '.' :: t ≠ [] := by simp
    have hlast_eq : (d ++ '.' :: t).getLast hne = t.getLast ht := by
      rw [List.getLast_append_of_ne_nil hne (List.cons_ne_nil _ _), List.getLast_cons ht]
    have hlast : (d ++ '.' :: t).getLast? ≠ some '\n' := by
      rw [List.getLast?_eq_some_getLast hne, hlast_eq]
      intro heq
      have hl := htw _ (List.getLast_mem ht)
      rw [Option.some.inj heq, hlf] at hl
      cases hl
    have hsplit : (d ++ '.' :: t).splitOn '.' = [d, t] := by
      rw [List.splitOn_append_cons_self_of_not_mem (not_mem_of_plain hdw hdot),
        List.splitOn_eq_singleton (not_mem_of_plain htw hdot)]
    have htrim : (((d ++ '.' :: t).dropWhile (· = '.')).reverse.dropWhile (· = '.')).reverse =
        d ++ '.' :: t := by
      refine trim_dots_of_plain_ends hne ?_ ?_
      · rw [List.head_append_of_ne_nil hd]
        exact hdw _ (List.head_mem hd)
      · rw [hlast_eq]
        exact htw _ (List.getLast_mem ht)
    have hguard : d ≠ [] ∧ t ≠ [] ∧ d.all isPlain = true ∧ t.all isPlain = true :=
      ⟨hd, ht, List.all_eq_true.mpr hdw, List.all_eq_true.mpr htw⟩
    simp only [splitReference, bareName, hr, if_neg hlast, hsplit, htrim, if_pos hguard,
      List.getLast?_cons_cons, List.getLast?_singleton, Option.getD_some, true_and]
    simpa using ht

/-! ## Bindings and table names -/

/-- Keeping the first candidate of each key keeps a sublist of the candidates. -/
theorem firstOfKeys_sublist : ∀ xs : List (Nat × Binding), (firstOfKeys xs).Sublist xs
  | [] => by simp [firstOfKeys]
  | x :: xs => by
    rw [firstOfKeys_cons]
    exact ((firstOfKeys_sublist _).trans List.filter_sublist).cons_cons x
termination_by xs => xs.length
decreasing_by exact Nat.lt_add_one_of_le (List.length_filter_le _ _)

theorem accept_eq_some {viaAs : Bool} {m : Nat × String × String} {c : Nat × Binding}
    (h : accept viaAs m = some c) : c = (m.1, Binding.ofMatch m.2.1 m.2.2) := by
  unfold accept at h
  split at h
  · cases h
  · exact (Option.some.inj h).symm

/-- Every binding of a text is an accepted match of one of the shapes, at the place where
that match starts. -/
theorem exists_match_of_mem_bindings {text : String} {b : Binding} (hb : b ∈ bindings text) :
    ∃ s ∈ shapes, ∃ p r a, (p, r, a) ∈ shapeMatches s.1 s.2 text.toList ∧
      accept s.2 (p, r, a) = some (p, b) := by
  rw [bindings, collect_eq, foldl_keep] at hb
  simp only [List.contains_nil, Bool.not_false, List.filter_true, List.nil_append, List.mem_map,
    List.mem_mergeSort] at hb
  obtain ⟨c, hc, rfl⟩ := hb
  obtain ⟨s, hs, ⟨p, r, a⟩, hm, hacc⟩ := mem_candidates.mp ((firstOfKeys_sublist _).subset hc)
  have hc' := accept_eq_some hacc
  subst hc'
  exact ⟨s, hs, p, r, a, hm, hacc⟩

/-- The shape with opener `o` matched at position `p` of `text`, reading the reference `r`,
and made the binding `b`. -/
def MadeAt (text : String) (b : Binding) (o : Opener) (p : Nat) (r : String) : Prop :=
  ∃ viaAs aliasName, (o, viaAs) ∈ shapes ∧ (p, r, aliasName) ∈ shapeMatches o viaAs text.toList ∧
    accept viaAs (p, r, aliasName) = some (p, b)

/-- Position `p` of `cs` lies inside a match that the table-name scan for `o` made earlier:
after the start of that match, before the text it gave back. -/
def InsideEarlierMatch (o : Opener) (cs : List Char) (p : Nat) : Prop :=
  ∃ q r rest, (q, r) ∈ searchAll (matchReference o) 0 none cs ∧
    matchReference o (charBefore none cs q) (cs.drop q) = some (r, rest) ∧ q < p ∧
      p + rest.length < cs.length

/-- A reference the table-name scan reads gives a table name, unless its last part is empty. -/
theorem lower_bareName_mem_tableNames {text : String} {o : Opener} {p : Nat} {r : String}
    (h : (p, r) ∈ searchAll (matchReference o) 0 none text.toList) (hne : bareName r ≠ "") :
    Text.lowerString (bareName r) ∈ tableNames text := by
  have hr : r ∈ (searchAll (matchReference o) 0 none text.toList).map (·.2) :=
    List.mem_map.mpr ⟨(p, r), h, rfl⟩
  simp only [tableNames, List.mem_map, List.mem_filter, List.mem_append]
  refine ⟨bareName r, ⟨⟨r, ?_, rfl⟩, by simpa using hne⟩, rfl⟩
  cases o
  · exact .inl (by simpa using hr)
  · exact .inr (by simpa using hr)

/-- Whatever shape made a binding at a place, reading a plain reference, the binding's table
is a table name, unless the place lies inside a match the table-name scan made earlier. -/
theorem madeAt_table_mem_tableNames {text : String} {b : Binding} {o : Opener} {p : Nat}
    {r : String} (hmade : MadeAt text b o p r) (hplain : PlainReference r.toList) :
    b.table ∈ tableNames text ∨ InsideEarlierMatch o text.toList p := by
  obtain ⟨viaAs, a, -, hm, hacc⟩ := hmade
  -- the shape matched at `p` and read `r`; the table-name pattern matches there too
  obtain ⟨i, hi, hpi, rest, hmi⟩ := searchAll_sound (consumes_shapeMatcher o viaAs) hm
  rw [Nat.zero_add] at hpi
  subst hpi
  obtain ⟨f, hf, hfr⟩ := Option.map_eq_some_iff.mp hmi
  obtain ⟨rest₀, href, -⟩ := matchReference_of_matchBinding hf
  have hfref : f.reference = r := congrArg (·.1.1) hfr
  rw [hfref] at href
  rcases @searchAll_covers _ _ (consumes_matchReference o) 0 _ _ _ _ _ hi href with
    ⟨r', hr'⟩ | ⟨j, r', rest', hj, hmj, hji, hend⟩
  · -- the table-name scan starts a match at `p`, where it reads the same reference
    left
    obtain ⟨i', -, hii, rest'', hm''⟩ := searchAll_sound (consumes_matchReference o) hr'
    simp only [Nat.zero_add] at hii
    subst hii
    rw [href, Option.some.injEq, Prod.mk.injEq] at hm''
    obtain ⟨rfl, -⟩ := hm''
    obtain ⟨heq, hne⟩ := splitReference_eq_bareName hplain
    have htable : b.table = Text.lowerString (splitReference r).1 := by
      rw [(Prod.mk.inj (accept_eq_some hacc)).2]
      rfl
    rw [htable, heq]
    exact lower_bareName_mem_tableNames (by simpa using hr') hne
  · -- the place lies inside an earlier match of the table-name scan
    exact .inr ⟨j, r', rest', by simpa using hj, hmj, hji, hend⟩

/-- **The table of every binding is a table name**, when its reference is plain, unless the
keyword that starts it lies inside a reference the table-name scan read earlier: every binding
is made by a shape at some place, reading some reference; whichever shape made it there, a
plain reference gives a table name unless the place lies inside an earlier match of the
table-name scan; and on a plain reference the two scans read the same table. -/
theorem binding_table_mem_tableNames (text : String) :
    (∀ b ∈ bindings text, ∃ o p r, MadeAt text b o p r) ∧
    (∀ b o p r, MadeAt text b o p r → PlainReference r.toList →
      b.table ∈ tableNames text ∨ InsideEarlierMatch o text.toList p) ∧
    (∀ r : String, PlainReference r.toList → (splitReference r).1 = bareName r ∧ bareName r ≠ "") := by
  refine ⟨fun b hb => ?_, fun _ _ _ _ hmade hplain => madeAt_table_mem_tableNames hmade hplain,
    fun _ hplain => splitReference_eq_bareName hplain⟩
  obtain ⟨⟨o, viaAs⟩, hs, p, r, a, hm, hacc⟩ := exists_match_of_mem_bindings hb
  exact ⟨o, p, r, viaAs, a, hs, hm, hacc⟩

/-- A qualified reference: the binding of `u` is made at the `FROM`, position `9`, with the
plain reference `shop.users`, and its table is a table name, the one both scans read. -/
theorem binding_table_mem_tableNames_shop :
    MadeAt "SELECT * FROM shop.users u" ⟨"users", "u", some "shop"⟩ .fromKw 9 "shop.users" ∧
      PlainReference "shop.users".toList ∧
      ("users" ∈ tableNames "SELECT * FROM shop.users u" ∨
        InsideEarlierMatch .fromKw "SELECT * FROM shop.users u".toList 9) ∧
      (splitReference "shop.users").1 = bareName "shop.users" ∧ bareName "shop.users" ≠ "" := by
  have hmade : MadeAt "SELECT * FROM shop.users u" ⟨"users", "u", some "shop"⟩ .fromKw 9
      "shop.users" := ⟨false, "u", .tail _ (.head _), by decide +kernel, by decide +kernel⟩
  have hplain : PlainReference "shop.users".toList := by
    rw [show "shop.users".toList = "shop".toList ++ '.' :: "users".toList by simp]
    exact .qualified (by simp) (by simp [isPlain]) (by simp) (by simp [isPlain])
  exact ⟨hmade, hplain,
    (binding_table_mem_tableNames "SELECT * FROM shop.users u").2.1 _ _ _ _ hmade hplain,
    (binding_table_mem_tableNames "SELECT * FROM shop.users u").2.2 _ hplain⟩

/-- Two statements where a binding's table is no table name: a keyword read as the reference
of the keyword before it, and a reference of three parts. -/
theorem bindings_beyond_tableNames :
    (⟨"t", "c", none⟩ ∈ bindings "FROM FROM t AS c" ∧ tableNames "FROM FROM t AS c" = ["from"]) ∧
      (⟨"a.b.c", "x", none⟩ ∈ bindings "FROM a.b.c x" ∧ tableNames "FROM a.b.c x" = ["c"]) := by
  -- membership needs no sorting, which the kernel cannot run
  simp only [bindings, List.mem_map, List.mem_mergeSort]
  exact ⟨⟨⟨(5, _), by decide +kernel, rfl⟩, by decide +kernel⟩, ⟨(0, _), by decide +kernel, rfl⟩,
    by decide +kernel⟩

end SqlAssist.Alias
