import SqlAssist.Proofs.TwoPass

/-!
# Each column name offered once

`columnsFromTables` offers the columns of the tables a statement references.  It takes the
tables in order, locates each in the cache, and builds a batch of the columns whose names no
earlier batch offered; the names of a batch are added to those seen only after the whole
batch is chosen, and before the typed word filters it.

So a name is offered once as long as no located table lists it twice: a later table never
offers a name an earlier table listed, and one batch offers each of its names once.  The name
is offered with the type and table of the first located table that lists it.  A table that
lists a name twice gets two items of that name, since the second is checked against the names
seen before the table, not against the first.

## Main statements

* `freshBatches_fresh`: what a run of the batches offers, relative to the names already seen.
* `columnsFromTables_once`: over a cache that keeps its contract, the items have distinct
  labels; a name is offered exactly when it matches the typed word and a located referenced
  table lists it; and its item is the one the first such table gives its column alone.
* `namesOnce_of_stored`: tables list each name once whenever no column list the cache stores
  names a column twice.
* `columnsFromTables_repeats_name`: a table that lists a name twice offers it twice.
-/

namespace Except

/-- A bind after a step that succeeded continues with its value. -/
theorem ok_bind {ε α β : Type} {a : α} {f : α → Except ε β} : Except.ok a >>= f = f a := rfl

end Except

namespace SqlAssist.Schema

/-- A column list the cache answers is one its snapshot stores. -/
theorem Cache.columns?_stored {c : Cache} {name : String} {d tb : Value}
    {entries : List ColumnEntry} (h : c.columns? name d tb = .ok (some entries)) :
    ∃ s, c.snapshot? name = some s ∧ ∃ k, (k, entries) ∈ s.columns := by
  unfold Cache.columns? at h
  revert h
  cases hs : c.snapshot? name with
  | none => exact nofun
  | some s =>
    intro h
    refine ⟨s, rfl, ?_⟩
    -- the keys pass their check, and the list is the value of the first entry of the key
    have hget : KeyMap.get? s.columns (d, tb) = some entries := by
      simp only [Snapshot.columnsOf?, bind, Except.bind] at h
      revert h
      cases d.checkKey <;> cases tb.checkKey <;> simp
    obtain ⟨e, he, rfl⟩ := Option.map_eq_some_iff.mp hget
    exact ⟨e.1, List.mem_of_find?_eq_some he⟩

end SqlAssist.Schema

namespace SqlAssist.Completion

open Schema

/-! ## Columns named by texts -/

/-- The column entry of a name and a type. -/
def textColumn (p : String × Value) : ColumnEntry := .column ⟨.str p.1, p.2⟩

/-- Columns named by texts are columns of names and types. -/
theorem TextColumns.eq_map {es : List ColumnEntry} (h : TextColumns es) :
    ∃ cs : List (String × Value), es = cs.map textColumn := by
  induction es with
  | nil => exact ⟨[], rfl⟩
  | cons e es ih =>
    obtain ⟨⟨_, type⟩, rfl, s, rfl⟩ := h e List.mem_cons_self
    obtain ⟨cs, rfl⟩ := ih fun x hx => h x (List.mem_cons_of_mem _ hx)
    exact ⟨(s, type) :: cs, rfl⟩

/-- Among texts, a text is seen exactly when it is one of them. -/
theorem any_same_str {seen : List Value} (h : ∀ v ∈ seen, v.IsText) (n : String) :
    seen.any (·.same (.str n)) = true ↔ Value.str n ∈ seen := by
  induction seen with
  | nil => simp
  | cons v vs ih =>
    obtain ⟨s, rfl⟩ := h v List.mem_cons_self
    rw [List.any_cons, Bool.or_eq_true, ih fun w hw => h w (List.mem_cons_of_mem _ hw),
      List.mem_cons]
    simp only [Value.same, beq_iff_eq, Value.str.injEq]
    exact or_congr_left eq_comm

/-- The names of the columns not seen are the names listed and not seen. -/
theorem mem_fresh_iff {seen : List Value} (hseen : ∀ v ∈ seen, v.IsText)
    (cs : List (String × Value)) (n : String) :
    n ∈ (cs.filter fun p => !seen.any (·.same (.str p.1))).map Prod.fst ↔
      n ∈ cs.map Prod.fst ∧ Value.str n ∉ seen := by
  have hkeep : ∀ p : String × Value, (!seen.any (·.same (.str p.1))) = true ↔
      Value.str p.1 ∉ seen := fun p => by
    rw [Bool.not_eq_true', ← Bool.not_eq_true, any_same_str hseen]
  simp only [List.mem_map, List.mem_filter, hkeep]
  constructor
  · rintro ⟨p, ⟨hp, hs⟩, rfl⟩
    exact ⟨⟨p, hp, rfl⟩, hs⟩
  · rintro ⟨⟨p, hp, rfl⟩, hs⟩
    exact ⟨p, ⟨hp, hs⟩, rfl⟩

/-! ## One batch -/

section Batch

variable {typed : String}

/-- The labels of a batch: its prefix-matching candidates, then its other matching ones. -/
theorem labels_build {kind : Kind} {names : List String} {detail : String → Value}
    {documentation : String → String} :
    (build kind names typed detail documentation).map (·.label) =
      names.filter (fun n => priority n typed = some 0) ++
        names.filter (fun n => priority n typed = some 1) := by
  rw [build_eq_filter, List.map_append, List.map_map, List.map_map]
  exact congrArg₂ (· ++ ·) (List.map_id' _) (List.map_id' _)

theorem mem_labels_build {kind : Kind} {names : List String} {detail : String → Value}
    {documentation : String → String} {n : String} :
    n ∈ (build kind names typed detail documentation).map (·.label) ↔
      n ∈ names ∧ (priority n typed).isSome := by
  rw [labels_build, List.mem_append, List.mem_filter, List.mem_filter, ← and_or_left]
  refine and_congr_right fun _ => ?_
  -- a matching candidate has priority 0 or 1
  cases hp : priority n typed with
  | none => simp
  | some p =>
    have := priority_le_one hp
    obtain rfl | rfl : p = 0 ∨ p = 1 := by omega
    all_goals simp

theorem nodup_labels_build {kind : Kind} {names : List String} {detail : String → Value}
    {documentation : String → String} (h : names.Nodup) :
    ((build kind names typed detail documentation).map (·.label)).Nodup := by
  rw [labels_build, List.nodup_append]
  refine ⟨h.filter _, h.filter _, fun a ha b hb hab => ?_⟩
  rw [List.mem_filter] at ha hb
  subst hab
  have h0 := of_decide_eq_true ha.2
  have h1 := of_decide_eq_true hb.2
  rw [h0] at h1
  cases h1

/-- Every entry of a list of text columns passes the checks of a column batch. -/
theorem mapM_checked_textColumns (cs : List (String × Value)) :
    (cs.map textColumn).mapM (fun e => do
        let c ← e.column?
        c.name.checkKey
        Except.ok c : ColumnEntry → Except Misuse Column) =
      .ok (cs.map fun p => ⟨.str p.1, p.2⟩) := by
  rw [List.mapM_map]
  exact Except.mapM_eq_ok_map fun _ _ => rfl

/-- A batch of text columns is built over their names. -/
theorem columnItems_textColumns (cs : List (String × Value)) (table : Option Value)
    (aliasName : Option String) : ∃ detail documentation,
      columnItems (cs.map textColumn) typed table aliasName =
        .ok (build .column (cs.map Prod.fst) typed detail documentation) := by
  have hnames : candidateTexts ((cs.map fun p => (⟨.str p.1, p.2⟩ : Column)).map (·.name)) =
      .ok (cs.map Prod.fst) := by
    rw [List.map_map, ← candidateTexts_map_str (cs.map Prod.fst), List.map_map]
    rfl
  rw [columnItems.eq_def, mapM_checked_textColumns]
  simp only [bind, Except.bind, hnames]
  exact ⟨_, _, rfl⟩

/-- An item of a batch is made from a matching candidate. -/
theorem mem_build {kind : Kind} {names : List String} {detail : String → Value}
    {documentation : String → String} {i : Item} :
    i ∈ build kind names typed detail documentation ↔
      ∃ n ∈ names, ∃ p, priority n typed = some p ∧ i = makeItem kind detail documentation n p := by
  rw [build_eq_passes, List.mem_append, mem_itemsAt, mem_itemsAt]
  constructor
  · rintro (⟨n, hn, hp, rfl⟩ | ⟨n, hn, hp, rfl⟩)
    · exact ⟨n, hn, 0, hp, rfl⟩
    · exact ⟨n, hn, 1, hp, rfl⟩
  · rintro ⟨n, hn, p, hp, rfl⟩
    have := priority_le_one hp
    obtain rfl | rfl : p = 0 ∨ p = 1 := by omega
    · exact .inl ⟨n, hn, hp, rfl⟩
    · exact .inr ⟨n, hn, hp, rfl⟩

/-- A batch of one matching candidate is its item. -/
theorem build_single {kind : Kind} {detail : String → Value} {documentation : String → String}
    {n : String} {p : Nat} (hp : priority n typed = some p) :
    build kind [n] typed detail documentation = [makeItem kind detail documentation n p] := by
  have := priority_le_one hp
  obtain rfl | rfl : p = 0 ∨ p = 1 := by omega
  all_goals simp [build_eq_passes, itemsAt, hp]

/-- Among columns named once each, the last column of a name is the one of that name. -/
theorem find?_reverse_textColumns {cs : List (String × Value)} (hnodup : (cs.map Prod.fst).Nodup)
    {n : String} {type : Value} (hmem : (n, type) ∈ cs) :
    ((cs.map fun p => (⟨.str p.1, p.2⟩ : Column)).reverse.find? fun c => c.name.same (.str n)) =
      some ⟨.str n, type⟩ := by
  rw [← List.map_reverse, List.find?_map]
  have hkeys : (cs.reverse.map Prod.fst).Nodup := by
    rw [List.map_reverse]
    exact List.nodup_reverse.mpr hnodup
  have hmem' : (n, type) ∈ cs.reverse := List.mem_reverse.mpr hmem
  generalize cs.reverse = ds at hkeys hmem' ⊢
  -- the one pair of key `n` is found, wherever it stands
  induction ds with
  | nil => simp at hmem'
  | cons d ds ih =>
    rw [List.map_cons, List.nodup_cons] at hkeys
    rcases List.mem_cons.mp hmem' with rfl | hmem'
    · simp [Value.same]
    · have hne : d.1 ≠ n := fun h => hkeys.1 (h ▸ List.mem_map_of_mem hmem')
      rw [List.find?_cons_of_neg (by simpa [Value.same] using hne)]
      exact ih hkeys.2 hmem'

/-- **An item of a batch of columns named once each is the item its column gets alone**:
the type shown is the type of its own column. -/
theorem columnItems_single {cs : List (String × Value)} (hnodup : (cs.map Prod.fst).Nodup)
    {tb : Value} {items : List Item} (h : columnItems (cs.map textColumn) typed (some tb) = .ok items)
    {i : Item} (hi : i ∈ items) :
    ∃ p ∈ cs, p.1 = i.label ∧ columnItems [textColumn p] typed (some tb) = .ok [i] := by
  have hnames : ∀ ds : List (String × Value),
      candidateTexts ((ds.map fun p => (⟨.str p.1, p.2⟩ : Column)).map (·.name)) =
        .ok (ds.map Prod.fst) := fun ds => by
    rw [List.map_map, ← candidateTexts_map_str (ds.map Prod.fst), List.map_map]
    rfl
  rw [columnItems.eq_def, mapM_checked_textColumns] at h
  simp only [bind, Except.bind, hnames] at h
  cases h
  -- the item is made from one candidate, the name of one column
  obtain ⟨n, hn, p, hp, rfl⟩ := mem_build.mp hi
  obtain ⟨⟨n, type⟩, hmem, rfl⟩ := List.mem_map.mp hn
  dsimp only at hp
  refine ⟨(n, type), hmem, rfl, ?_⟩
  rw [show [textColumn (n, type)] = [(n, type)].map textColumn from rfl, columnItems.eq_def,
    mapM_checked_textColumns]
  simp only [bind, Except.bind, hnames]
  simp only [List.map_cons, List.map_nil, build_single hp, makeItem,
    find?_reverse_textColumns hnodup hmem]
  simp [Value.same]

end Batch

/-! ## The referenced tables -/

section Tables

variable (cache : Cache) (source : String) (database : Option Value)

/-- The referenced table `t` is located as `tb`, and its column list holds the column `c`. -/
def ListsColumn (t : String) (tb : Value) (c : Column) : Prop :=
  ∃ d entries, cache.locate? source (.str t) database = .ok (some (d, tb)) ∧
    cache.columns? source d tb = .ok (some entries) ∧ ColumnEntry.column c ∈ entries

/-- No located referenced table lists two columns of one name. -/
def NamesOnce (tables : List String) : Prop :=
  ∀ t ∈ tables, ∀ d tb entries, cache.locate? source (.str t) database = .ok (some (d, tb)) →
    cache.columns? source d tb = .ok (some entries) →
    entries.Pairwise fun e e' => ∀ c c', e = .column c → e' = .column c' → c.name ≠ c'.name

/-- The column `c` of the located table `tb` is the first column of its name among the
referenced tables: no table before it lists a column of that name. -/
def FirstLists (tables : List String) (tb : Value) (c : Column) : Prop :=
  ∃ pre t post, tables = pre ++ t :: post ∧ ListsColumn cache source database t tb c ∧
    ∀ t' ∈ pre, ∀ tb' c', ListsColumn cache source database t' tb' c' → c'.name ≠ c.name

/-- What the batches of the referenced tables offer, given the names already seen: each name
once; a name exactly when it matches the typed word, was not seen, and a located table lists
it; and each item as the first table listing its name gives it for that column alone. -/
structure FreshItems (typed : String) (tables : List String) (seen : List Value)
    (items : List Item) : Prop where
  nodup : (items.map (·.label)).Nodup
  mem_iff : ∀ n, n ∈ items.map (·.label) ↔ (priority n typed).isSome ∧ Value.str n ∉ seen ∧
    ∃ t ∈ tables, ∃ tb c, ListsColumn cache source database t tb c ∧ c.name = .str n
  first : ∀ i ∈ items, ∃ tb c, FirstLists cache source database tables tb c ∧
    c.name = .str i.label ∧ columnItems [.column c] typed (some tb) = .ok [i]

variable {cache source database}

/-- A cache whose stored column lists each name a column once lists each name once for any
referenced tables. -/
theorem namesOnce_of_stored {tables : List String}
    (h : ∀ s, cache.snapshot? source = some s → ∀ k entries, (k, entries) ∈ s.columns →
      entries.Pairwise fun e e' => ∀ c c', e = .column c → e' = .column c' → c.name ≠ c'.name) :
    NamesOnce cache source database tables := by
  intro t _ d tb entries _ hcol
  obtain ⟨s, hs, k, hk⟩ := Cache.columns?_stored hcol
  exact h s hs k entries hk

/-- A table before the first one listing a name, which lists no column of that name, keeps
it first. -/
theorem FirstLists.cons {t : String} {tables : List String} {tb : Value} {c : Column}
    (h : FirstLists cache source database tables tb c)
    (ht : ∀ tb' c', ListsColumn cache source database t tb' c' → c'.name ≠ c.name) :
    FirstLists cache source database (t :: tables) tb c := by
  obtain ⟨pre, t₀, post, rfl, hlists, hpre⟩ := h
  refine ⟨t :: pre, t₀, post, rfl, hlists, fun t' ht' => ?_⟩
  rcases List.mem_cons.mp ht' with rfl | ht'
  · exact ht
  · exact hpre t' ht'

/-- A table that is not located, or has no columns, lists none. -/
theorem not_listsColumn {t : String} {r : Option (Value × Value)}
    (hloc : cache.locate? source (.str t) database = .ok r)
    (hr : ∀ d tb, r = some (d, tb) → ∀ entries, cache.columns? source d tb = .ok (some entries) →
      entries = []) (tb : Value) (c : Column) : ¬ ListsColumn cache source database t tb c := by
  rintro ⟨d, entries, hloc', hcol, hc⟩
  rw [hloc] at hloc'
  rw [hr d tb (Except.ok.inj hloc') entries hcol] at hc
  simp at hc

/-- A located table whose column list is missing or empty lists none. -/
theorem not_listsColumn_located {t : String} {d tb₀ : Value} {r : Option (List ColumnEntry)}
    (hloc : cache.locate? source (.str t) database = .ok (some (d, tb₀)))
    (hcol : cache.columns? source d tb₀ = .ok r) (hr : ∀ es, r = some es → es = [])
    (tb : Value) (c : Column) : ¬ ListsColumn cache source database t tb c :=
  not_listsColumn hloc (fun d' tb' h entries hc => by
    cases h
    rw [hcol] at hc
    exact hr entries (Except.ok.inj hc)) tb c

/-- A located table lists exactly the columns of its column list. -/
theorem listsColumn_iff {t : String} {d tb₀ : Value} {cs : List (String × Value)}
    (hloc : cache.locate? source (.str t) database = .ok (some (d, tb₀)))
    (hcol : cache.columns? source d tb₀ = .ok (some (cs.map textColumn))) {tb : Value} {n : String} :
    (∃ c, ListsColumn cache source database t tb c ∧ c.name = .str n) ↔
      tb = tb₀ ∧ n ∈ cs.map Prod.fst := by
  constructor
  · rintro ⟨c, ⟨d', entries, hloc', hcol', hc⟩, hname⟩
    rw [hloc] at hloc'
    obtain ⟨rfl, rfl⟩ := Prod.mk.inj (Option.some.inj (Except.ok.inj hloc'))
    rw [hcol] at hcol'
    obtain rfl := Option.some.inj (Except.ok.inj hcol')
    obtain ⟨⟨m, type⟩, hmem, hcm⟩ := List.mem_map.mp hc
    cases hcm
    exact ⟨rfl, List.mem_map.mpr ⟨(m, type), hmem, Value.str.inj hname⟩⟩
  · rintro ⟨rfl, hn⟩
    obtain ⟨⟨m, type⟩, hmem, rfl⟩ := List.mem_map.mp hn
    exact ⟨⟨.str m, type⟩, ⟨d, _, hloc, hcol, List.mem_map_of_mem hmem⟩, rfl⟩

/-! ## One table at a time -/

variable {typed : String} {t : String} {rest : List String} {seen : List Value}

/-- A table that lists no column adds nothing. -/
theorem FreshItems.cons_unlisted {items : List Item}
    (hno : ∀ tb c, ¬ ListsColumn cache source database t tb c)
    (h : FreshItems cache source database typed rest seen items) :
    FreshItems cache source database typed (t :: rest) seen items where
  nodup := h.nodup
  mem_iff n := by
    rw [h.mem_iff n, List.exists_mem_cons_iff]
    simp only [hno, false_and, exists_false, false_or]
  first i hi := by
    obtain ⟨tb, c, hfirst, hname, hsingle⟩ := h.first i hi
    exact ⟨tb, c, hfirst.cons fun tb' c' hl => absurd hl (hno tb' c'), hname, hsingle⟩

/-- **A located table offers its columns not seen before, and sees them all**: its batch comes
first, then what the later tables offer with its names seen too. -/
theorem FreshItems.cons_batch {d tb : Value} {cs : List (String × Value)}
    {batch later : List Item} (hseen : ∀ v ∈ seen, v.IsText)
    (hloc : cache.locate? source (.str t) database = .ok (some (d, tb)))
    (hcol : cache.columns? source d tb = .ok (some (cs.map textColumn)))
    (hnodup : (cs.map Prod.fst).Nodup)
    (hbatch : columnItems ((cs.filter fun p => !seen.any (·.same (.str p.1))).map textColumn) typed
      (some tb) = .ok batch)
    (hlater : FreshItems cache source database typed rest
      (seen ++ (cs.filter fun p => !seen.any (·.same (.str p.1))).map (Value.str ·.1)) later) :
    FreshItems cache source database typed (t :: rest) seen (batch ++ later) := by
  generalize hfresh : cs.filter (fun p => !seen.any (·.same (.str p.1))) = fresh at hbatch hlater
  have hfreshNodup : (fresh.map Prod.fst).Nodup :=
    hnodup.sublist (hfresh ▸ (List.filter_sublist (l := cs)).map Prod.fst)
  have hmemFresh : ∀ n, n ∈ fresh.map Prod.fst ↔ n ∈ cs.map Prod.fst ∧ Value.str n ∉ seen := by
    rw [← hfresh]
    exact mem_fresh_iff hseen cs
  have hseen' : ∀ n, Value.str n ∈ seen ++ fresh.map (Value.str ·.1) ↔
      Value.str n ∈ seen ∨ n ∈ fresh.map Prod.fst := by
    intro n
    simp only [List.mem_append, List.mem_map, Value.str.injEq]
  have hlists : ∀ n, (∃ tb c, ListsColumn cache source database t tb c ∧ c.name = .str n) ↔
      n ∈ cs.map Prod.fst := fun n => by
    simp only [listsColumn_iff hloc hcol, exists_eq_left]
  -- the batch is built over the fresh names
  obtain ⟨detail, documentation, hb⟩ := @columnItems_textColumns typed fresh (some tb) none
  have hitems : batch = build .column (fresh.map Prod.fst) typed detail documentation :=
    (Except.ok.inj (hbatch.symm.trans hb))
  -- a name offered later was not seen here
  have hunseen : ∀ n ∈ later.map (·.label), Value.str n ∉ seen ∧ n ∉ fresh.map Prod.fst :=
    fun n hn => not_or.mp (mt (hseen' n).mpr ((hlater.mem_iff n).mp hn).2.1)
  refine ⟨?_, fun n => ?_, fun i hi => ?_⟩
  · -- each batch is free of repeats, and the later ones repeat none of this one
    rw [List.map_append, List.nodup_append, hitems]
    refine ⟨nodup_labels_build hfreshNodup, hlater.nodup, fun a ha b hb hab => ?_⟩
    subst hab
    exact (hunseen a hb).2 (mem_labels_build.mp ha).1
  · rw [List.map_append, List.mem_append, hitems, mem_labels_build, hlater.mem_iff, hseen',
      hmemFresh, List.exists_mem_cons_iff, hlists]
    tauto
  · rcases List.mem_append.mp hi with hi | hi
    · -- offered here, by this table's own column
      rw [hitems] at hi
      obtain ⟨p, hp, hlabel, hsingle⟩ := columnItems_single hfreshNodup hb hi
      have hpcs : p ∈ cs := by
        rw [← hfresh] at hp
        exact List.mem_of_mem_filter hp
      refine ⟨tb, ⟨.str p.1, p.2⟩, ⟨[], t, rest, rfl, ⟨d, _, hloc, hcol, ?_⟩, by simp⟩, by
        rw [hlabel], hsingle⟩
      exact List.mem_map_of_mem (f := textColumn) hpcs
    · -- offered later: this table lists no column of its name
      obtain ⟨tb', c, hfirst, hname, hsingle⟩ := hlater.first i hi
      refine ⟨tb', c, hfirst.cons fun tb'' c' hl hc' => ?_, hname, hsingle⟩
      have hn : i.label ∈ cs.map Prod.fst := (hlists i.label).mp ⟨tb'', c', hl, hc'.trans hname⟩
      obtain ⟨hs, hf⟩ := hunseen i.label (List.mem_map_of_mem hi)
      exact hf ((hmemFresh i.label).mpr ⟨hn, hs⟩)

/-- **What a run of the batches offers**, given the names already seen: over a cache that keeps
its contract, and tables that list each name once, the batches return `FreshItems`. -/
theorem freshBatches_fresh (ht : cache.TextualAt source) (hdb : ∀ d ∈ database, d.IsText) :
    ∀ (tables : List String) (seen : List Value), (∀ v ∈ seen, v.IsText) →
      NamesOnce cache source database tables →
      (freshBatches cache source database typed tables seen).Returns
        (FreshItems cache source database typed tables seen)
  | [], _, _, _ => Except.Returns.ok ⟨List.nodup_nil, by simp, by simp⟩
  | t :: rest, seen, hseen, honce => by
    have hrest : NamesOnce cache source database rest := fun t' ht' =>
      honce t' (List.mem_cons_of_mem _ ht')
    -- a table that lists nothing is passed over
    have hskip : (∀ tb c, ¬ ListsColumn cache source database t tb c) →
        (freshBatches cache source database typed rest seen).Returns
          (FreshItems cache source database typed (t :: rest) seen) := fun hno =>
      (freshBatches_fresh ht hdb rest seen hseen hrest).mono fun _ h => h.cons_unlisted hno
    obtain ⟨r, hloc, hr⟩ := Cache.locate?_returns ht ⟨t, rfl⟩ hdb
    simp only [freshBatches, hloc, Except.ok_bind]
    rcases r with _ | ⟨d, tb⟩
    · exact hskip (not_listsColumn hloc nofun)
    obtain ⟨hd, htb⟩ := hr _ rfl
    obtain ⟨cr, hcol, hcr⟩ := Cache.columns?_returns ht hd htb
    simp only [hcol, Except.ok_bind]
    rcases cr with _ | _ | ⟨e, es⟩
    · exact hskip (not_listsColumn_located hloc hcol nofun)
    · exact hskip (not_listsColumn_located hloc hcol fun _ h => (Option.some.inj h).symm)
    obtain ⟨cs, hcs⟩ := TextColumns.eq_map (hcr _ rfl)
    have hnodup : (cs.map Prod.fst).Nodup := by
      have hp := honce t List.mem_cons_self d tb _ hloc hcol
      rw [hcs, List.pairwise_map] at hp
      exact List.pairwise_map.mpr (hp.imp fun hab heq => hab _ _ rfl rfl (congrArg Value.str heq))
    refine (Except.Returns.filterM (checkFresh_eq (hcr _ rfl) seen)).bind fun fresh hfresh => ?_
    subst hfresh
    -- the fresh entries are the columns of names not seen, and add their names to the seen
    rw [hcs, List.filter_map]
    conv in List.filterMap _ _ =>
      rw [List.filterMap_map]
      change List.filterMap (fun p : String × Value => some (Value.str p.1)) _
    rw [List.filterMap_eq_map', show freshTest seen ∘ textColumn =
      fun p => !seen.any (·.same (.str p.1)) from rfl]
    obtain ⟨detail, documentation, hb⟩ := @columnItems_textColumns typed
      (cs.filter fun p => !seen.any (·.same (.str p.1))) (some tb) none
    have hseen' : ∀ v ∈ seen ++ (cs.filter fun p => !seen.any (·.same (.str p.1))).map
        (Value.str ·.1), v.IsText := fun v hv => by
      rcases List.mem_append.mp hv with hv | hv
      · exact hseen v hv
      · obtain ⟨p, -, rfl⟩ := List.mem_map.mp hv
        exact ⟨p.1, rfl⟩
    rw [hb, Except.ok_bind]
    refine (freshBatches_fresh ht hdb rest _ hseen' hrest).bind fun later hlater => ?_
    exact Except.Returns.ok (FreshItems.cons_batch hseen hloc (hcs ▸ hcol) hnodup hb hlater)

/-- **Each column name is offered once**, over a cache that keeps its contract and referenced
tables that each list a name once: the items have distinct labels; a name is offered exactly
when it matches the typed word and a located referenced table lists it; and its item is the one
the first table that lists it gives for that column alone. -/
theorem columnsFromTables_once (ht : cache.TextualAt source) (hdb : ∀ d ∈ database, d.IsText)
    (tables : List String) (honce : NamesOnce cache source database tables) :
    (columnsFromTables cache source tables database typed).Returns fun items =>
      (items.map (·.label)).Nodup ∧
      (∀ n, n ∈ items.map (·.label) ↔ (priority n typed).isSome ∧
        ∃ t ∈ tables, ∃ tb c, ListsColumn cache source database t tb c ∧ c.name = .str n) ∧
      ∀ i ∈ items, ∃ tb c, FirstLists cache source database tables tb c ∧
        c.name = .str i.label ∧ columnItems [.column c] typed (some tb) = .ok [i] := by
  refine (freshBatches_fresh ht hdb tables [] nofun honce).map fun items h => ?_
  -- ranking only reorders the items
  have hperm : (rank items).Perm items := List.mergeSort_perm items _
  have hlabels := hperm.map (·.label)
  refine ⟨hlabels.nodup_iff.mpr h.nodup, fun n => ?_, fun i hi => h.first i (hperm.mem_iff.mp hi)⟩
  rw [hlabels.mem_iff, h.mem_iff]
  simp only [List.not_mem_nil, not_false_eq_true, true_and]

theorem columnsFromTables_once_twice :
    (Service.shopCache.TextualAt "demo" ∧ (∀ d ∈ (none : Option Value), d.IsText) ∧
      NamesOnce Service.shopCache "demo" none ["users", "users"]) ∧
    (columnsFromTables Service.shopCache "demo" ["users", "users"] none "").Returns fun items =>
      (items.map (·.label)).Nodup ∧
      (∀ n, n ∈ items.map (·.label) ↔ (priority n "").isSome ∧
        ∃ t ∈ ["users", "users"], ∃ tb c, ListsColumn Service.shopCache "demo" none t tb c ∧
          c.name = .str n) ∧
      ∀ i ∈ items, ∃ tb c, FirstLists Service.shopCache "demo" none ["users", "users"] tb c ∧
        c.name = .str i.label ∧ columnItems [.column c] "" (some tb) = .ok [i] :=
  have hdb : ∀ d ∈ (none : Option Value), d.IsText := nofun
  -- the one column list stored lists one column
  have honce : NamesOnce Service.shopCache "demo" none ["users", "users"] := by
    refine namesOnce_of_stored fun s hs k entries hk => ?_
    obtain rfl := Option.some.inj hs
    obtain ⟨-, rfl⟩ := Prod.mk.inj (List.mem_singleton.mp hk)
    exact List.pairwise_singleton _ _
  ⟨⟨Service.shopCache_textualAt, hdb, honce⟩,
    columnsFromTables_once Service.shopCache_textualAt hdb _ honce⟩

/-- A cache whose table `t` lists the column `id` twice. -/
def repeatCache : Cache :=
  { snapshots := [("demo", ⟨[.str "d"], [(.str "d", [.str "t"])],
      [((.str "d", .str "t"), [.column ⟨.str "id", .str "int"⟩, .column ⟨.str "id", .str "int"⟩])]⟩)] }

/-- A table that lists a name twice offers it twice: the second column is checked against the
names seen before the table. -/
theorem columnsFromTables_repeats_name :
    (columnsFromTables repeatCache "demo" ["t"] none "").map (·.map (·.label)) = .ok ["id", "id"] := by
  rw [columnsFromTables_eq]
  simp only [freshBatches, columnItems, build_eq_passes]
  rfl

end Tables

end SqlAssist.Completion
