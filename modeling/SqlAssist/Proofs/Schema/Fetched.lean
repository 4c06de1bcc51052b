import SqlAssist.Proofs.Schema.Sources
import SqlAssist.Proofs.Ranking
import Mathlib.Data.List.Induction

/-!
# The snapshot a source's answers make

A load asks its source three kinds of question: the databases, the tables of a database,
the columns of a table.  A source answers every question the same way however often it
is asked (`Source.SameReplies`), so its answers can be read off the source as it stands
before the load.  `fetchedSnapshot` puts them together the way the cache documents a
snapshot: the database list as answered; one table entry per distinct database, in order
of first occurrence; one column entry per distinct table of each, database by database.

A load fills a table map and a column map entry by entry, in whatever order its tasks
end, and `Snapshot.assemble` reorders them.  When the two maps hold the answers for every
database and every table of it, the assembled snapshot is the fetched one
(`fetchedSnapshot_eq_assemble`).  Keys are compared by sameness, which on texts is
equality, so the statements are about sources that name their databases and tables by
texts (`TextNames`).

## Main statements

* `foldl_put_texts`: putting the entries of a list of texts one by one gives one entry per
  distinct text, in order of first occurrence.
* `fetchedSnapshot_eq_assemble`: complete maps assemble to the fetched snapshot.
-/

namespace SqlAssist.Schema

/-! ## A source's answers -/

/-- What a source answers to a question for names; a missing source answers nothing. -/
def namesAnswer : Option Source → Option Value → Except FetchError (List Value)
  | some s, d => (s.askNames d).2.outcome
  | none, _ => .ok []

/-- What a source answers to a question for the columns of a table. -/
def columnsAnswer : Option Source → Value → Value → Except FetchError (List ColumnEntry)
  | some s, d, t => (s.askColumns d t).2.outcome
  | none, _, _ => .ok []

/-- A source that names its databases and tables by texts. -/
structure TextNames (s : Option Source) : Prop where
  databases : ∀ dbs, namesAnswer s none = .ok dbs → ∀ d ∈ dbs, d.IsText
  tables : ∀ d ts, namesAnswer s (some d) = .ok ts → ∀ t ∈ ts, t.IsText

/-- The snapshot a source's answers make, if every answer is a list: the databases as
answered, the tables of each distinct database and the columns of each distinct table of
each, in order of first occurrence. -/
def fetchedSnapshot (s : Option Source) : Option Snapshot := do
  let dbs ← (namesAnswer s none).toOption
  let tables ← (Value.distinct dbs).mapM fun d =>
    (namesAnswer s (some d)).toOption.map fun ts => (d, ts)
  let columns ← (tables.flatMap fun e => (Value.distinct e.2).map fun t => (e.1, t)).mapM
    fun k => (columnsAnswer s k.1 k.2).toOption.map fun cs => (k, cs)
  pure ⟨dbs, tables, columns⟩

/-! ## Texts as keys -/

section Texts

/-- On texts, sameness is equality. -/
theorem Value.same_iff_of_isText {a b : Value} (ha : a.IsText) (hb : b.IsText) :
    Value.same a b = true ↔ a = b := by
  obtain ⟨s, rfl⟩ := ha
  obtain ⟨t, rfl⟩ := hb
  simp [Value.same]

theorem Value.mem_distinct {l : List Value} (hl : ∀ y ∈ l, y.IsText) {x : Value} :
    x ∈ Value.distinct l ↔ x ∈ l := by
  induction l with
  | nil => simp [Value.distinct]
  | cons y l ih =>
    have hy := hl y List.mem_cons_self
    rw [Value.distinct, List.mem_cons, List.mem_filter, ih fun z hz => hl z (List.mem_cons_of_mem _ hz),
      List.mem_cons]
    by_cases hxy : x = y
    · simp [hxy]
    · constructor
      · rintro (h | ⟨h, -⟩)
        · exact .inl h
        · exact .inr h
      · rintro (h | h)
        · exact .inl h
        · refine .inr ⟨h, ?_⟩
          have := (Value.same_iff_of_isText (hl x (List.mem_cons_of_mem _ h)) hy).not.2 hxy
          simpa using this

/-- A text new to a list of texts is its last distinct element. -/
theorem Value.distinct_append_not_mem {l : List Value} (hl : ∀ y ∈ l, y.IsText) {x : Value}
    (hx : x.IsText) (hxl : x ∉ l) : Value.distinct (l ++ [x]) = Value.distinct l ++ [x] := by
  induction l with
  | nil => simp [Value.distinct]
  | cons y l ih =>
    have hy := hl y List.mem_cons_self
    have hl' : ∀ z ∈ l, z.IsText := fun z hz => hl z (List.mem_cons_of_mem _ hz)
    have hxy : x ≠ y := fun h => hxl (h ▸ List.mem_cons_self)
    have hsame : Value.same x y = false := by
      simpa using (Value.same_iff_of_isText hx hy).not.2 hxy
    simp only [List.cons_append, Value.distinct]
    rw [ih hl' fun h => hxl (List.mem_cons_of_mem _ h)]
    simp [hsame]

/-- A text already in a list of texts adds nothing to its distinct elements. -/
theorem Value.distinct_append_of_mem {l : List Value} (hl : ∀ y ∈ l, y.IsText) {x : Value}
    (hx : x.IsText) (hxl : x ∈ l) : Value.distinct (l ++ [x]) = Value.distinct l := by
  induction l with
  | nil => simp at hxl
  | cons y l ih =>
    have hy := hl y List.mem_cons_self
    have hl' : ∀ z ∈ l, z.IsText := fun z hz => hl z (List.mem_cons_of_mem _ hz)
    simp only [List.cons_append, Value.distinct]
    by_cases hxl' : x ∈ l
    · rw [ih hl' hxl']
    · -- the last occurrence is the first one, which the filter drops
      have hxy : x = y := by simpa [hxl'] using hxl
      subst hxy
      rw [Value.distinct_append_not_mem hl' hx hxl']
      have hsame : Value.same x x = true := (Value.same_iff_of_isText hx hx).2 rfl
      simp [hsame]

/-- The distinct elements of a list of texts are distinct. -/
theorem Value.nodup_distinct {l : List Value} (hl : ∀ y ∈ l, y.IsText) : (Value.distinct l).Nodup := by
  induction l with
  | nil => simp [Value.distinct]
  | cons y l ih =>
    have hy := hl y List.mem_cons_self
    have hsame : Value.same y y = true := (Value.same_iff_of_isText hy hy).2 rfl
    rw [Value.distinct, List.nodup_cons]
    exact ⟨by simp [List.mem_filter, hsame], (ih fun z hz => hl z (List.mem_cons_of_mem _ hz)).filter _⟩

/-- Pairs of values are the same when both parts are. -/
theorem SameKey.same_pair (a b : Value × Value) :
    SameKey.same a b = (Value.same a.1 b.1 && Value.same a.2 b.2) := rfl

end Texts

/-! ## Folding entries into a key map -/

section Folding

variable {κ α : Type} [SameKey κ]

/-- **Putting texts one by one.**  Each put of a text already there rewrites its entry
with the same value, and each new text goes at the end: the map gets one entry per
distinct text, in order of first occurrence, after the entries it had, whose keys are
none of the texts. -/
theorem foldl_put_texts (key : Value → κ) (v : Value → α)
    (hkey : ∀ a b, a.IsText → b.IsText → (SameKey.same (key a) (key b) = true ↔ a = b))
    (m0 : KeyMap κ α) (ts : List Value) (hts : ∀ t ∈ ts, t.IsText)
    (hm0 : ∀ e ∈ m0, ∀ t ∈ ts, SameKey.same e.1 (key t) = false) :
    ts.foldl (fun m t => m.put (key t) (v t)) m0 =
      m0 ++ (Value.distinct ts).map fun t => (key t, v t) := by
  induction ts using List.reverseRecOn with
  | nil => simp [Value.distinct]
  | append_singleton l x ih =>
    have hl : ∀ t ∈ l, t.IsText := fun t ht => hts t (List.mem_append_left _ ht)
    have hx : x.IsText := hts x (by simp)
    have hm0x : ∀ e ∈ m0, SameKey.same e.1 (key x) = false := fun e he => hm0 e he x (by simp)
    rw [List.foldl_append, ih hl fun e he t ht => hm0 e he t (List.mem_append_left _ ht)]
    simp only [List.foldl_cons, List.foldl_nil, KeyMap.put]
    -- an entry of the distinct texts has the key of `x` exactly when it is `x`
    have hentry : ∀ y ∈ Value.distinct l, (SameKey.same (key y) (key x) = true ↔ y = x) :=
      fun y hy => hkey y x (hl y ((Value.mem_distinct hl).1 hy)) hx
    by_cases hxl : x ∈ l
    · have hxd : x ∈ Value.distinct l := (Value.mem_distinct hl).2 hxl
      have hany : (m0 ++ (Value.distinct l).map fun t => (key t, v t)).any
          (fun e => SameKey.same e.1 (key x)) = true := by
        simp only [List.any_append, List.any_map, Bool.or_eq_true, List.any_eq_true]
        exact .inr ⟨x, hxd, by simpa using (hentry x hxd).2 rfl⟩
      rw [if_pos hany, Value.distinct_append_of_mem hl hx hxl, List.map_append, List.map_map]
      congr 1
      · exact List.map_congr_left (fun e he => by simp [hm0x e he]) |>.trans (List.map_id _)
      · refine List.map_congr_left fun y hy => ?_
        by_cases hyx : y = x
        · subst hyx; simp
        · have : SameKey.same (key y) (key x) = false := by simpa using (hentry y hy).not.2 hyx
          simp [this]
    · have hany : (m0 ++ (Value.distinct l).map fun t => (key t, v t)).any
          (fun e => SameKey.same e.1 (key x)) = false := by
        simp only [List.any_append, List.any_map, Bool.or_eq_false_iff, List.any_eq_false]
        refine ⟨fun e he => by simp [hm0x e he], fun y hy => ?_⟩
        have hyx : y ≠ x := fun h => hxl (h ▸ (Value.mem_distinct hl).1 hy)
        simpa using (hentry y hy).not.2 hyx
      rw [if_neg (by simp [hany]), Value.distinct_append_not_mem hl hx hxl]
      simp

/-- **Putting the tables of each database in turn.**  The pairs of one database never
meet those of another, so each database's block of pairs is folded on its own: one entry
per distinct table, database by database. -/
theorem foldl_put_blocks (v : Value × Value → α) (L : List Value) (hL : L.Nodup)
    (hLt : ∀ d ∈ L, d.IsText) (f : Value → List Value) (hf : ∀ d ∈ L, ∀ t ∈ f d, t.IsText)
    (m0 : KeyMap (Value × Value) α) (hm0 : ∀ e ∈ m0, e.1.1.IsText ∧ e.1.1 ∉ L) :
    (L.flatMap fun d => (f d).map fun t => (d, t)).foldl (fun m k => m.put k (v k)) m0 =
      m0 ++ L.flatMap fun d => (Value.distinct (f d)).map fun t => ((d, t), v (d, t)) := by
  induction L generalizing m0 with
  | nil => simp
  | cons d L ih =>
    have hd := hLt d List.mem_cons_self
    have hsame : Value.same d d = true := (Value.same_iff_of_isText hd hd).2 rfl
    obtain ⟨hdL, hLn⟩ := List.nodup_cons.1 hL
    -- the block of `d`, after entries whose database is not `d`
    have hblock := foldl_put_texts (fun t => (d, t)) (fun t => v (d, t))
      (fun a b ha hb => by simp [SameKey.same_pair, hsame, Value.same_iff_of_isText ha hb])
      m0 (f d) (hf d List.mem_cons_self) fun e he t ht => by
        obtain ⟨he1, he2⟩ := hm0 e he
        have hne : e.1.1 ≠ d := fun h => he2 (h ▸ List.mem_cons_self)
        have : Value.same e.1.1 d = false := by
          simpa using (Value.same_iff_of_isText he1 hd).not.2 hne
        simp [SameKey.same_pair, this]
    rw [List.flatMap_cons, List.foldl_append, List.foldl_map, hblock,
      ih hLn (fun x hx => hLt x (List.mem_cons_of_mem _ hx))
        (fun x hx => hf x (List.mem_cons_of_mem _ hx))]
    · simp
    · intro e he
      rcases List.mem_append.1 he with he | he
      · obtain ⟨he1, he2⟩ := hm0 e he
        exact ⟨he1, fun h => he2 (List.mem_cons_of_mem _ h)⟩
      · obtain ⟨t, -, rfl⟩ := List.mem_map.1 he
        exact ⟨hd, hdL⟩

end Folding

/-- A list read entry by entry, every entry present, is the list of entries. -/
theorem mapM_option_eq_some {α β : Type} {f : α → Option β} {g : α → β} :
    ∀ {l : List α}, (∀ x ∈ l, f x = some (g x)) → l.mapM f = some (l.map g)
  | [], _ => rfl
  | x :: l, h => by
    rw [List.mapM_cons, h x List.mem_cons_self,
      mapM_option_eq_some fun y hy => h y (List.mem_cons_of_mem _ hy)]
    rfl

/-- A list read entry by entry to a result has a result for every entry. -/
theorem mem_of_mapM_option {α β : Type} {f : α → Option β} :
    ∀ {l : List α} {ys : List β}, l.mapM f = some ys → ∀ x ∈ l, ∃ y ∈ ys, f x = some y
  | [], _, _, x, hx => by simp at hx
  | z :: l, ys, h, x, hx => by
    rw [List.mapM_cons] at h
    cases hz : f z with
    | none => simp [hz] at h
    | some b =>
      cases hl : l.mapM f with
      | none => simp [hz, hl] at h
      | some zs =>
        have hys : ys = b :: zs := by simpa [hz, hl] using h.symm
        subst hys
        rcases List.mem_cons.1 hx with rfl | hx
        · exact ⟨b, List.mem_cons_self, hz⟩
        · obtain ⟨y, hy, hfy⟩ := mem_of_mapM_option hl x hx
          exact ⟨y, List.mem_cons_of_mem _ hy, hfy⟩

/-- **A source whose answers make a snapshot answers every question of a load.**  The
databases are a list, every database has a list of tables and every table of it a list
of columns. -/
theorem answers_of_fetchedSnapshot {s : Option Source} (hs : TextNames s)
    (h : (fetchedSnapshot s).isSome) :
    ∃ dbs, namesAnswer s none = .ok dbs ∧ ∀ d ∈ dbs, ∃ ts, namesAnswer s (some d) = .ok ts ∧
      ∀ t ∈ ts, ∃ cs, columnsAnswer s d t = .ok cs := by
  unfold fetchedSnapshot at h
  cases hd : namesAnswer s none with
  | error e => simp [hd, Except.toOption] at h
  | ok dbs =>
    have hdbs : (namesAnswer s none).toOption = some dbs := by rw [hd]; rfl
    simp only [hdbs, Option.bind_eq_bind, Option.bind_some] at h
    cases ht : (Value.distinct dbs).mapM fun d =>
        (namesAnswer s (some d)).toOption.map fun ts => (d, ts) with
    | none => simp [ht] at h
    | some tables =>
      cases hc : (tables.flatMap fun e => (Value.distinct e.2).map fun t => (e.1, t)).mapM
          fun k => (columnsAnswer s k.1 k.2).toOption.map fun cs => (k, cs) with
      | none => simp [ht, hc] at h
      | some columns =>
        refine ⟨dbs, rfl, fun d hdm => ?_⟩
        -- the database is among the distinct ones, so its tables were read into `tables`
        have hdd : d ∈ Value.distinct dbs := (Value.mem_distinct (hs.databases dbs hd)).2 hdm
        obtain ⟨e, he, hde⟩ := mem_of_mapM_option ht d hdd
        cases hts : namesAnswer s (some d) with
        | error err => simp [hts, Except.toOption] at hde
        | ok ts =>
          have hed : e = (d, ts) := by simpa [hts, Except.toOption] using hde.symm
          subst hed
          refine ⟨ts, rfl, fun t htm => ?_⟩
          have htd : t ∈ Value.distinct ts := (Value.mem_distinct (hs.tables d ts hts)).2 htm
          have hk : (d, t) ∈ tables.flatMap fun e => (Value.distinct e.2).map fun t => (e.1, t) :=
            List.mem_flatMap.2 ⟨(d, ts), he, List.mem_map.2 ⟨t, htd, rfl⟩⟩
          obtain ⟨y, -, hy⟩ := mem_of_mapM_option hc (d, t) hk
          cases hcs : columnsAnswer s d t with
          | error err => simp [hcs, Except.toOption] at hy
          | ok cs => exact ⟨cs, rfl⟩

/-! ## Assembling what a load fetched -/

/-- **Complete maps assemble to the fetched snapshot.**  When the table map gives every
fetched database its answer and the column map every table of it its columns, the
snapshot assembled from the database list and the two maps is the one the source's
answers make. -/
theorem fetchedSnapshot_eq_assemble {s : Option Source} (hs : TextNames s) {dbs : List Value}
    (hdbs : namesAnswer s none = .ok dbs) {T : KeyMap Value (List Value)}
    {C : KeyMap (Value × Value) (List ColumnEntry)}
    (hT : ∀ d ∈ dbs, ∃ ts, namesAnswer s (some d) = .ok ts ∧ KeyMap.get? T d = some ts)
    (hC : ∀ d ∈ dbs, ∀ ts, namesAnswer s (some d) = .ok ts → ∀ t ∈ ts,
      ∃ cs, columnsAnswer s d t = .ok cs ∧ KeyMap.get? C (d, t) = some cs) :
    fetchedSnapshot s = some (Snapshot.assemble dbs T C) := by
  have hdt : ∀ d ∈ dbs, d.IsText := hs.databases dbs hdbs
  have hmem : ∀ d ∈ Value.distinct dbs, d ∈ dbs := fun d hd => (Value.mem_distinct hdt).1 hd
  -- the tables and columns as the maps hold them
  have htv : ∀ d ∈ dbs, namesAnswer s (some d) = .ok ((KeyMap.get? T d).getD []) := fun d hd => by
    obtain ⟨ts, h1, h2⟩ := hT d hd
    simp [h2, h1]
  have hcv : ∀ d ∈ dbs, ∀ t ∈ (KeyMap.get? T d).getD [],
      columnsAnswer s d t = .ok ((KeyMap.get? C (d, t)).getD []) := fun d hd t ht => by
    obtain ⟨cs, h1, h2⟩ := hC d hd _ (htv d hd) t ht
    simp [h2, h1]
  have htt : ∀ d ∈ Value.distinct dbs, ∀ t ∈ (KeyMap.get? T d).getD [], t.IsText :=
    fun d hd => hs.tables d _ (htv d (hmem d hd))
  -- the assembled table map: one entry per distinct database
  have htables : dbs.foldl (fun m d => KeyMap.put m d ((KeyMap.get? T d).getD [])) [] =
      (Value.distinct dbs).map fun d => (d, (KeyMap.get? T d).getD []) := by
    simpa using foldl_put_texts (fun d => d) (fun d => (KeyMap.get? T d).getD [])
      (fun a b ha hb => Value.same_iff_of_isText ha hb) [] dbs hdt (by simp)
  -- the assembled column map: one entry per distinct table of each, database by database
  have hcolumns : (((Value.distinct dbs).map fun d => (d, (KeyMap.get? T d).getD [])).flatMap
      fun e => e.2.map fun t => (e.1, t)).foldl
        (fun m k => KeyMap.put m k ((KeyMap.get? C k).getD [])) [] =
      (Value.distinct dbs).flatMap fun d => (Value.distinct ((KeyMap.get? T d).getD [])).map
        fun t => ((d, t), (KeyMap.get? C (d, t)).getD []) := by
    rw [List.flatMap_map]
    simpa using foldl_put_blocks (fun k => (KeyMap.get? C k).getD []) (Value.distinct dbs)
      (Value.nodup_distinct hdt) (fun d hd => hdt d (hmem d hd)) _ htt [] (by simp)
  have hfetchT : ((Value.distinct dbs).mapM fun d =>
      (namesAnswer s (some d)).toOption.map fun ts => (d, ts)) =
      some ((Value.distinct dbs).map fun d => (d, (KeyMap.get? T d).getD [])) :=
    mapM_option_eq_some fun d hd => by simp [htv d (hmem d hd), Except.toOption]
  have hfetchC : ((((Value.distinct dbs).map fun d => (d, (KeyMap.get? T d).getD [])).flatMap
      fun e => (Value.distinct e.2).map fun t => (e.1, t)).mapM fun k =>
        (columnsAnswer s k.1 k.2).toOption.map fun cs => (k, cs)) =
      some ((((Value.distinct dbs).map fun d => (d, (KeyMap.get? T d).getD [])).flatMap fun e =>
        (Value.distinct e.2).map fun t => (e.1, t)).map fun k => (k, (KeyMap.get? C k).getD [])) := by
    refine mapM_option_eq_some fun k hk => ?_
    simp only [List.flatMap_map, List.mem_flatMap, List.mem_map] at hk
    obtain ⟨d, hd, t, ht, rfl⟩ := hk
    have htv' : t ∈ (KeyMap.get? T d).getD [] := (Value.mem_distinct (htt d hd)).1 ht
    simp [hcv d (hmem d hd) t htv', Except.toOption]
  have hdbs' : (namesAnswer s none).toOption = some dbs := by rw [hdbs]; rfl
  unfold fetchedSnapshot Snapshot.assemble
  simp only [hdbs', Option.bind_eq_bind, Option.bind_some, hfetchT, hfetchC, Option.pure_def]
  rw [htables, hcolumns, List.flatMap_map]
  simp [List.map_flatMap, Function.comp_def]

/-! ## Filling a key map

A load files each answer under its key with `KeyMap.put`.  A put keeps every key there
was, and on keys whose sameness is equality it adds the key it puts. -/

section Filling

variable {κ α : Type} [SameKey κ] {m : KeyMap κ α} {k : κ} {v : α}

/-- Every entry after a put is an old entry, an old key of the same key with the new
value, or the new entry. -/
theorem KeyMap.mem_put {e : κ × α} (he : e ∈ KeyMap.put m k v) :
    e ∈ m ∨ (∃ a ∈ m, e = (a.1, v) ∧ SameKey.same a.1 k = true) ∨ e = (k, v) := by
  unfold KeyMap.put at he
  split at he
  · obtain ⟨a, ha, rfl⟩ := List.mem_map.1 he
    by_cases hs : SameKey.same a.1 k = true
    · exact .inr (.inl ⟨a, ha, by simp [hs], hs⟩)
    · exact .inl (by simpa [hs] using ha)
  · rcases List.mem_append.1 he with he | he
    · exact .inl he
    · exact .inr (.inr (List.mem_singleton.1 he))

/-- A put keeps the keys there were. -/
theorem KeyMap.key_mem_put {k' : κ} (h : ∃ e ∈ m, e.1 = k') : ∃ e ∈ KeyMap.put m k v, e.1 = k' := by
  obtain ⟨e, he, rfl⟩ := h
  unfold KeyMap.put
  split
  · by_cases hs : SameKey.same e.1 k = true
    · exact ⟨(e.1, v), List.mem_map.2 ⟨e, he, by simp [hs]⟩, rfl⟩
    · exact ⟨e, List.mem_map.2 ⟨e, he, by simp [hs]⟩, rfl⟩
  · exact ⟨e, List.mem_append_left _ he, rfl⟩

/-- A put has an entry of the key it puts, when every key there the same as it is it. -/
theorem KeyMap.key_put (hm : ∀ e ∈ m, SameKey.same e.1 k = true → e.1 = k) :
    ∃ e ∈ KeyMap.put m k v, e.1 = k := by
  unfold KeyMap.put
  split
  · next hany =>
    obtain ⟨a, ha, hs⟩ := List.any_eq_true.1 hany
    exact ⟨(a.1, v), List.mem_map.2 ⟨a, ha, by simp [hs]⟩, hm a ha hs⟩
  · exact ⟨(k, v), List.mem_append_right _ (List.mem_singleton_self _), rfl⟩

/-- A key the same as the key of an entry is found, at an entry of a key the same as
it. -/
theorem KeyMap.get?_of_mem (h : ∃ e ∈ m, SameKey.same e.1 k = true) :
    ∃ e ∈ m, SameKey.same e.1 k = true ∧ KeyMap.get? m k = some e.2 := by
  unfold KeyMap.get?
  cases hf : m.find? (fun e => SameKey.same e.1 k) with
  | none =>
    obtain ⟨e, he, hs⟩ := h
    exact absurd hs (by simpa using List.find?_eq_none.1 hf e he)
  | some e =>
    have hs := List.find?_some hf
    exact ⟨e, List.mem_of_find?_eq_some hf, hs, rfl⟩

end Filling

/-! ## Asking sources that agree

A load asks the sources of its run, which agree with the sources before it
(`SourcesAgree`): every answer is the answer of the source before the load, and asking
keeps the agreement. -/

section Asking

variable {ss : List (String × Source)} {r : Run} (h : SourcesAgree ss r.world.sources)
  (src : String)
include h

theorem ask_askNames (d : Option Value) :
    (r.ask src (·.askNames d) []).2.outcome = namesAnswer (ss.lookup src) d ∧
      SourcesAgree ss (r.ask src (·.askNames d) []).1.world.sources := by
  rcases h.lookup_cases src with ⟨hs₀, hs⟩ | ⟨s₀, s, hs₀, hs, h0⟩
  · rw [hs₀, Run.ask_of_lookup_none r src _ [] hs]
    exact ⟨rfl, h⟩
  · rw [hs₀, Run.ask_of_lookup r src _ [] hs]
    exact ⟨by simp only [namesAnswer, h0.names d], h.setEntry hs (Source.sameReplies_askNames s d)⟩

theorem ask_askColumns (d t : Value) :
    (r.ask src (·.askColumns d t) []).2.outcome = columnsAnswer (ss.lookup src) d t ∧
      SourcesAgree ss (r.ask src (·.askColumns d t) []).1.world.sources := by
  rcases h.lookup_cases src with ⟨hs₀, hs⟩ | ⟨s₀, s, hs₀, hs, h0⟩
  · rw [hs₀, Run.ask_of_lookup_none r src _ [] hs]
    exact ⟨rfl, h⟩
  · rw [hs₀, Run.ask_of_lookup r src _ [] hs]
    exact ⟨by simp only [columnsAnswer, h0.columns d t],
      h.setEntry hs (Source.sameReplies_askColumns s d t)⟩

end Asking

end SqlAssist.Schema
