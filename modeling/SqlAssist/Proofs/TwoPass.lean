import SqlAssist.Proofs.Ranking

/-!
# Two-pass ranking

`build` filters one candidate list by the word typed so far; `rank` merges built batches by
a stable sort on the priority written in the items' sort texts.  Both come down to one
order, the *two-pass* order: first the prefix matches, in the order their sources list
them, then the matches inside a name, in that order.

## The stable sort by a key of two values

`rank` sorts by the text before the first `_` of a sort text.  An item that a batch holds
carries its priority there, `0` or `1`, so the key has two values, and a label that holds a
`_` of its own does not disturb it (`Item.rankKey_of_ranksFor`).  A list sorted by such a key
is its prefix matches followed by its other matches (`Ranked.eq_filter_append`).  The sort is
stable: the items of one key are already sorted among themselves, so they stay a sublist of
the result (`List.sublist_mergeSort`), and there are as many of them as before, so the sort
keeps them as they were (`filter_rank`).  Together (`rank_eq_filter`): ranking merged batches
gives their prefix matches in merge order and then their other matches in merge order.

## Main statements

* `build_eq_filter`: a batch is the prefix-matching candidates and then the other matching
  ones, each in candidate order, each item showing the candidate as its label, insert text
  and filter text and the priority and the candidate as its sort text.
* `rank_flatMap_build`: ranking batches built for one typed word is the two-pass order over
  all their candidates at once.
* `allTableItems_texts`, `columnsFromTables_eq`: the tables of every database, and the fresh
  columns of the referenced tables, are offered in the two-pass order.
* `ranking_two_pass`: all of it together.
-/

namespace Except

variable {ε α β : Type}

/-- A bind that succeeds ran its first step to success. -/
theorem exists_of_bind_eq_ok {x : Except ε α} {f : α → Except ε β} {b : β}
    (h : x >>= f = .ok b) : ∃ a, x = .ok a ∧ f a = .ok b := by
  cases x with
  | error e => cases h
  | ok a => exact ⟨a, rfl, h⟩

/-- A traversal whose every step succeeds with a known value returns those values. -/
theorem mapM_eq_ok_map {f : α → Except ε β} {g : α → β} :
    ∀ {xs : List α}, (∀ x ∈ xs, f x = .ok (g x)) → xs.mapM f = .ok (xs.map g)
  | [], _ => rfl
  | x :: xs, h => by
    rw [List.mapM_cons, h x List.mem_cons_self,
      mapM_eq_ok_map fun y hy => h y (List.mem_cons_of_mem _ hy)]
    rfl

end Except

namespace SqlAssist.Completion

variable {typed : String}

/-! ## Sorting by the priority in the sort text -/

theorem rankLe_trans (a b c : Item) (hab : decide (a.rankKey ≤ b.rankKey) = true)
    (hbc : decide (b.rankKey ≤ c.rankKey) = true) : decide (a.rankKey ≤ c.rankKey) = true := by
  simp only [decide_eq_true_eq] at *
  exact le_trans hab hbc

theorem rankLe_total (a b : Item) :
    (decide (a.rankKey ≤ b.rankKey) || decide (b.rankKey ≤ a.rankKey)) = true := by
  simpa using le_total a.rankKey b.rankKey

/-- Two items that carry the same priority have the same rank key. -/
theorem rankKey_eq_of_priority {a b : Item} {p : Nat} (ha : a.RanksFor typed)
    (hb : b.RanksFor typed) (hpa : priority a.label typed = some p)
    (hpb : priority b.label typed = some p) : a.rankKey = b.rankKey := by
  obtain ⟨q, hq, hsa⟩ := ha
  obtain ⟨r, hr, hsb⟩ := hb
  rw [hpa] at hq
  rw [hpb] at hr
  cases hq
  cases hr
  rw [Item.rankKey_of_ranksFor hpa hsa, Item.rankKey_of_ranksFor hpb hsb]

/-- **A ranked list is its prefix matches followed by its other matches.** -/
theorem Ranked.eq_filter_append {items : List Item} (h : Ranked typed items) :
    items = items.filter (fun i => priority i.label typed = some 0) ++
      items.filter (fun i => priority i.label typed = some 1) := by
  induction items with
  | nil => rfl
  | cons a items ih =>
    have hrest : Ranked typed items := h.sublist (List.sublist_cons_self a items)
    obtain ⟨p, hp, -⟩ := h.carries a List.mem_cons_self
    obtain rfl | rfl : p = 0 ∨ p = 1 := by have := priority_le_one hp; omega
    · -- a prefix match heads both the list and its prefix matches
      rw [List.filter_cons_of_pos (by simpa using hp), List.filter_cons_of_neg (by simp [hp]),
        List.cons_append, ← ih hrest]
    · -- after a match inside a name comes no prefix match, so the rest is all such matches
      have hfirst := (List.pairwise_cons.mp h.prefixFirst).1
      have hnone : items.filter (fun i => priority i.label typed = some 0) = [] :=
        List.filter_eq_nil_iff.mpr fun b hb h0 => by
          have := hfirst b hb (by simpa using h0)
          rw [hp] at this
          cases this
      have hall : items.filter (fun i => priority i.label typed = some 1) = items := by
        refine List.filter_eq_self.mpr fun b hb => ?_
        obtain ⟨q, hq, -⟩ := hrest.carries b hb
        obtain rfl | rfl : q = 0 ∨ q = 1 := by have := priority_le_one hq; omega
        · have := hfirst b hb hq
          rw [hp] at this
          cases this
        · simpa using hq
      rw [List.filter_cons_of_neg (by simp [hp]), List.filter_cons_of_pos (by simpa using hp),
        hnone, hall]
      rfl

/-- **The sort is stable on one key**: items that share their rank key come out of `rank`
in the order they went in. -/
theorem filter_rank (P : Item → Bool) {items : List Item}
    (hP : ∀ a ∈ items, ∀ b ∈ items, P a → P b → a.rankKey = b.rankKey) :
    (rank items).filter P = items.filter P := by
  have hsorted : (items.filter P).Pairwise fun a b => decide (a.rankKey ≤ b.rankKey) := by
    refine List.Pairwise.imp_of_mem (fun {a b} ha hb _ => ?_)
      (List.pairwise_of_forall (R := fun _ _ => True) fun _ _ => trivial)
    obtain ⟨ha, hPa⟩ := List.mem_filter.mp ha
    obtain ⟨hb, hPb⟩ := List.mem_filter.mp hb
    simp [hP a ha b hb hPa hPb]
  have hsub : (items.filter P).Sublist (rank items) :=
    List.sublist_mergeSort rankLe_trans rankLe_total hsorted List.filter_sublist
  have hsub' : (items.filter P).Sublist ((rank items).filter P) := by
    have := hsub.filter P
    rwa [List.filter_eq_self.mpr fun a ha => (List.mem_filter.mp ha).2] at this
  have hlen : (items.filter P).length = ((rank items).filter P).length :=
    (((List.mergeSort_perm items _).filter P).length_eq).symm
  exact (hsub'.eq_of_length hlen).symm

/-- **Ranking merged batches is the two-pass order over the merge**: the prefix matches in
merge order, then the other matches in merge order. -/
theorem rank_eq_filter {items : List Item} (h : ∀ i ∈ items, i.RanksFor typed) :
    rank items = items.filter (fun i => priority i.label typed = some 0) ++
      items.filter (fun i => priority i.label typed = some 1) := by
  have hkey : ∀ p, ∀ a ∈ items, ∀ b ∈ items, decide (priority a.label typed = some p) = true →
      decide (priority b.label typed = some p) = true → a.rankKey = b.rankKey :=
    fun p a ha b hb hpa hpb =>
      rankKey_eq_of_priority (h a ha) (h b hb) (by simpa using hpa) (by simpa using hpb)
  calc rank items
      = (rank items).filter (fun i => priority i.label typed = some 0) ++
          (rank items).filter (fun i => priority i.label typed = some 1) :=
        (rank_ranked h).eq_filter_append
    _ = _ := by rw [filter_rank _ (hkey 0), filter_rank _ (hkey 1)]

/-! ## Batches -/

section Batches

variable {kind : Kind} {detail : String → Value} {documentation : String → String}

/-- The items at one priority are the candidates at that priority, each made into its item. -/
theorem itemsAt_eq_map_filter (p : Nat) (names : List String) :
    itemsAt kind detail documentation typed p names =
      (names.filter fun n => priority n typed = some p).map
        fun n => makeItem kind detail documentation n p := by
  rw [itemsAt, ← List.filterMap_eq_map, List.filterMap_filter]
  congr 1
  funext n
  by_cases hn : priority n typed = some p <;> simp [hn]

/-- Keeping the items at their own priority keeps them all. -/
theorem filter_itemsAt_self (p : Nat) (names : List String) :
    (itemsAt kind detail documentation typed p names).filter
      (fun i => priority i.label typed = some p) = itemsAt kind detail documentation typed p names :=
  List.filter_eq_self.mpr fun _ hi => by simpa using (ranksFor_of_mem_itemsAt hi).2

/-- Keeping the items at another priority keeps none. -/
theorem filter_itemsAt_of_ne {p q : Nat} (hpq : p ≠ q) (names : List String) :
    (itemsAt kind detail documentation typed p names).filter
      (fun i => priority i.label typed = some q) = [] :=
  List.filter_eq_nil_iff.mpr fun _ hi hq => by
    rw [(ranksFor_of_mem_itemsAt hi).2] at hq
    simp [hpq] at hq

theorem filter_build_zero (names : List String) :
    (build kind names typed detail documentation).filter
      (fun i => priority i.label typed = some 0) = itemsAt kind detail documentation typed 0 names := by
  rw [build_eq_passes, List.filter_append, filter_itemsAt_self, filter_itemsAt_of_ne (by decide),
    List.append_nil]

theorem filter_build_one (names : List String) :
    (build kind names typed detail documentation).filter
      (fun i => priority i.label typed = some 1) = itemsAt kind detail documentation typed 1 names := by
  rw [build_eq_passes, List.filter_append, filter_itemsAt_self, filter_itemsAt_of_ne (by decide),
    List.nil_append]

/-- An item's sort text is its priority's tag followed by its candidate. -/
theorem makeItem_eq_tag {p : Nat} {tag : String} (htag : toString p ++ "_" = tag) (name : String) :
    makeItem kind detail documentation name p =
      ⟨name, kind, detail name, documentation name, name, tag ++ name, name⟩ := by
  rw [makeItem, htag]

theorem makeItem_zero (name : String) :
    makeItem kind detail documentation name 0 =
      ⟨name, kind, detail name, documentation name, name, "0_" ++ name, name⟩ :=
  makeItem_eq_tag rfl name

theorem makeItem_one (name : String) :
    makeItem kind detail documentation name 1 =
      ⟨name, kind, detail name, documentation name, name, "1_" ++ name, name⟩ :=
  makeItem_eq_tag rfl name

/-- **A batch is two passes over its candidates**: the prefix matches, then the matches
inside a name, each in candidate order; a candidate that does not match is dropped, and each
item shows its candidate as label, insert text and filter text, and `0_` or `1_` and the
candidate as sort text. -/
theorem build_eq_filter (names : List String) :
    build kind names typed detail documentation =
      (names.filter fun n => priority n typed = some 0).map
          (fun n => ⟨n, kind, detail n, documentation n, n, "0_" ++ n, n⟩) ++
        (names.filter fun n => priority n typed = some 1).map
          (fun n => ⟨n, kind, detail n, documentation n, n, "1_" ++ n, n⟩) := by
  rw [build_eq_passes, itemsAt_eq_map_filter, itemsAt_eq_map_filter]
  simp only [makeItem_zero, makeItem_one]

/-- Every item of batches built for one typed word carries its priority. -/
theorem ranksFor_of_mem_flatMap_build {σ : Type} {sources : List σ} {kind : σ → Kind}
    {names : σ → List String} {detail : σ → String → Value}
    {documentation : σ → String → String} :
    ∀ i ∈ sources.flatMap (fun s => build (kind s) (names s) typed (detail s) (documentation s)),
      i.RanksFor typed := by
  intro i hi
  obtain ⟨s, -, hi⟩ := List.mem_flatMap.mp hi
  exact (build_ranked ..).carries i hi

end Batches

/-- **Ranking batches built for one typed word is the two-pass order over all their
candidates**: every prefix match of every source, sources in order and each in candidate
order, then every other match the same way. -/
theorem rank_flatMap_build {σ : Type} (sources : List σ) (kind : σ → Kind)
    (names : σ → List String) (detail : σ → String → Value)
    (documentation : σ → String → String) :
    rank (sources.flatMap fun s => build (kind s) (names s) typed (detail s) (documentation s)) =
      sources.flatMap (fun s => itemsAt (kind s) (detail s) (documentation s) typed 0 (names s)) ++
        sources.flatMap
          (fun s => itemsAt (kind s) (detail s) (documentation s) typed 1 (names s)) := by
  rw [rank_eq_filter ranksFor_of_mem_flatMap_build, List.filter_flatMap, List.filter_flatMap]
  simp only [filter_build_zero, filter_build_one]

/-! ## The tables of every database -/

/-- A list of texts reads back as those texts. -/
theorem candidateTexts_map_str (names : List String) :
    candidateTexts (names.map Value.str) = .ok names := by
  rw [candidateTexts, List.mapM_map,
    Except.mapM_eq_ok_map (f := Value.asText ∘ Value.str) (g := id) fun _ _ => rfl, List.map_id]

/-- **The tables of every database, in the two-pass order**: over databases whose table
names are texts, the prefix-matching tables of every database (databases in order, each in
table order), then the tables matched inside their names the same way, each item naming its
database. -/
theorem allTableItems_texts (tables : List (Value × List String)) :
    allTableItems (tables.map fun e => (e.1, e.2.map Value.str)) typed =
      .ok (tables.flatMap (fun e => itemsAt .table (fun _ => .str (tableDetail (some e.1)))
              (fun _ => "Type: TABLE") typed 0 e.2) ++
        tables.flatMap (fun e => itemsAt .table (fun _ => .str (tableDetail (some e.1)))
              (fun _ => "Type: TABLE") typed 1 e.2)) := by
  have hbatch : ∀ e ∈ tables, tableItems (e.2.map Value.str) typed (some e.1) =
      .ok (build .table e.2 typed (fun _ => .str (tableDetail (some e.1)))
        fun _ => "Type: TABLE") := by
    intro e _
    rw [tableItems, candidateTexts_map_str]
    rfl
  rw [allTableItems, List.mapM_map]
  simp only [Function.comp_def]
  rw [Except.mapM_eq_ok_map hbatch]
  show Except.ok (rank (List.map _ tables).flatten) = _
  rw [← List.flatMap_def, rank_flatMap_build tables (fun _ => .table) Prod.snd
    (fun e _ => .str (tableDetail (some e.1))) fun _ _ => "Type: TABLE"]

/-! ## The columns of the referenced tables -/

/-- A column batch is built over the names of its columns. -/
theorem columnItems_build {entries : List Schema.ColumnEntry} {table : Option Value}
    {aliasName : Option String} {items : List Item}
    (h : columnItems entries typed table aliasName = .ok items) :
    ∃ names detail documentation, items = build .column names typed detail documentation := by
  obtain ⟨columns, -, h⟩ := Except.exists_of_bind_eq_ok h
  obtain ⟨names, -, h⟩ := Except.exists_of_bind_eq_ok h
  cases h
  exact ⟨names, _, _, rfl⟩

/-- **The batches of the referenced tables** are built one after another, one for each
located table with columns, in table order. -/
theorem freshBatches_builds {cache : Schema.Cache} {source : String} {database : Option Value} :
    ∀ (tables : List String) (seen : List Value) {items : List Item},
      freshBatches cache source database typed tables seen = .ok items →
      ∃ sources : List (List String × (String → Value) × (String → String)),
        items = sources.flatMap fun s => build .column s.1 typed s.2.1 s.2.2
  | [], _, _, h => by
    cases h
    exact ⟨[], rfl⟩
  | t :: rest, seen, items, h => by
    rw [freshBatches] at h
    obtain ⟨located, -, h⟩ := Except.exists_of_bind_eq_ok h
    rcases located with _ | ⟨d, tb⟩
    · exact freshBatches_builds rest seen h
    obtain ⟨columns, -, h⟩ := Except.exists_of_bind_eq_ok h
    rcases columns with _ | _ | ⟨e, es⟩
    · exact freshBatches_builds rest seen h
    · exact freshBatches_builds rest seen h
    obtain ⟨fresh, -, h⟩ := Except.exists_of_bind_eq_ok h
    obtain ⟨batch, hbatch, h⟩ := Except.exists_of_bind_eq_ok h
    obtain ⟨later, hlater, h⟩ := Except.exists_of_bind_eq_ok h
    cases h
    obtain ⟨names, detail, documentation, rfl⟩ := columnItems_build hbatch
    obtain ⟨sources, rfl⟩ := freshBatches_builds rest _ hlater
    exact ⟨(names, detail, documentation) :: sources, rfl⟩

/-- **The fresh columns of the referenced tables, in the two-pass order**: whatever batches
the referenced tables give, the columns offered are their prefix matches, in batch order,
and then their other matches, in batch order; and a failure of the batches is the failure of
the whole. -/
theorem columnsFromTables_eq (cache : Schema.Cache) (source : String) (tables : List String)
    (database : Option Value) :
    columnsFromTables cache source tables database typed =
      (freshBatches cache source database typed tables []).map fun items =>
        items.filter (fun i => priority i.label typed = some 0) ++
          items.filter (fun i => priority i.label typed = some 1) := by
  rw [columnsFromTables]
  cases h : freshBatches cache source database typed tables [] with
  | error e => rfl
  | ok items =>
    obtain ⟨sources, rfl⟩ := freshBatches_builds tables [] h
    exact congrArg Except.ok (rank_eq_filter ranksFor_of_mem_flatMap_build)

/-- **Two-pass ranking.**  For one typed word: a batch is its prefix-matching candidates and
then its other matching candidates, each in candidate order, every item showing its
candidate as label, insert text and filter text and `0_` or `1_` and the candidate as sort
text; ranking batches built one after another gives the same two passes over all their
candidates, sources in order; so the tables of every database are offered prefix matches
first, databases and tables in order, and the columns of the referenced tables are offered
prefix matches first, in the order of their batches, which are built one after another. -/
theorem ranking_two_pass (typed : String) :
    (∀ (kind : Kind) (names : List String) (detail : String → Value)
        (documentation : String → String),
      build kind names typed detail documentation =
        (names.filter fun n => priority n typed = some 0).map
            (fun n => ⟨n, kind, detail n, documentation n, n, "0_" ++ n, n⟩) ++
          (names.filter fun n => priority n typed = some 1).map
            (fun n => ⟨n, kind, detail n, documentation n, n, "1_" ++ n, n⟩)) ∧
    (∀ {σ : Type} (sources : List σ) (kind : σ → Kind) (names : σ → List String)
        (detail : σ → String → Value) (documentation : σ → String → String),
      rank (sources.flatMap fun s => build (kind s) (names s) typed (detail s) (documentation s)) =
        sources.flatMap (fun s => ((names s).filter fun n => priority n typed = some 0).map
            fun n => ⟨n, kind s, detail s n, documentation s n, n, "0_" ++ n, n⟩) ++
          sources.flatMap (fun s => ((names s).filter fun n => priority n typed = some 1).map
            fun n => ⟨n, kind s, detail s n, documentation s n, n, "1_" ++ n, n⟩)) ∧
    (∀ tables : List (Value × List String),
      allTableItems (tables.map fun e => (e.1, e.2.map Value.str)) typed =
        .ok (tables.flatMap (fun e => (e.2.filter fun n => priority n typed = some 0).map
              fun n => ⟨n, .table, .str (tableDetail (some e.1)), "Type: TABLE", n, "0_" ++ n, n⟩) ++
          tables.flatMap (fun e => (e.2.filter fun n => priority n typed = some 1).map
              fun n => ⟨n, .table, .str (tableDetail (some e.1)), "Type: TABLE", n, "1_" ++ n, n⟩))) ∧
    (∀ (cache : Schema.Cache) (source : String) (tables : List String) (database : Option Value),
      columnsFromTables cache source tables database typed =
        (freshBatches cache source database typed tables []).map fun items =>
          items.filter (fun i => priority i.label typed = some 0) ++
            items.filter (fun i => priority i.label typed = some 1)) ∧
    ∀ (cache : Schema.Cache) (source : String) (tables : List String) (database : Option Value)
      (items : List Item), freshBatches cache source database typed tables [] = .ok items →
      ∃ sources : List (List String × (String → Value) × (String → String)),
        items = sources.flatMap fun s => build .column s.1 typed s.2.1 s.2.2 := by
  refine ⟨fun _ names _ _ => build_eq_filter names, ?_, ?_, columnsFromTables_eq,
    fun _ _ tables _ _ h => freshBatches_builds tables [] h⟩
  · intro σ sources kind names detail documentation
    rw [rank_flatMap_build]
    simp only [itemsAt_eq_map_filter, makeItem_zero, makeItem_one]
  · intro tables
    rw [allTableItems_texts]
    simp only [itemsAt_eq_map_filter, makeItem_zero, makeItem_one]

end SqlAssist.Completion
