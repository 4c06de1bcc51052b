import SqlAssist.Proofs.Schema.Fetched
import SqlAssist.Proofs.FreshColumns

/-!
# The cached spelling of a table

`Snapshot.locate` finds the spelling a snapshot caches for a table typed in any case, in
one pass over the databases and their tables.  It keeps two answers at once: it returns at
the first table that is the typed one exactly, in the typed database exactly when one is
given, and meanwhile remembers the first table that is the typed one up to case, which it
returns if no exact one comes.  A typed database that counts as given (not absent, not
empty) also filters the databases, up to case.

What the cache documents is simpler to state over the pairs it caches, each database with
each of its tables, in database-then-table order (`Snapshot.pairs`): keep the pairs whose
database passes the filter; the answer is the first exact one among them, or else the first
one spelled as typed up to case (`Snapshot.bestSpelling`).  For a snapshot that names its
databases and tables by texts the search gives exactly that answer and never fails
(`Snapshot.locate_eq_bestSpelling`).  A snapshot as a load assembles it has a column list
for each of its pairs, so the answer can always be looked up among the columns.

A name that is not a text has no lowercase, and the search stops at the first such table
it has to lowercase (`World.locate?_number_named_table`).

## Main statements

* `Snapshot.locate_eq_bestSpelling`: the one-pass search is the documented answer.
* `Snapshot.bestSpelling_eq_none_iff`, `Snapshot.mem_bestSpelling`: no answer exactly when
  no kept pair is spelled as typed; an answer is such a pair.
* `Snapshot.pairs_mem_columns`: an assembled snapshot has a column list for every pair.
* `Cache.locate?_bestSpelling`: for a cached snapshot as a load assembles it, named by texts.
-/

namespace SqlAssist.Schema

/-! ## The documented answer -/

/-- The pairs a snapshot caches, each database with each of its tables, in
database-then-table order. -/
def Snapshot.pairs (s : Snapshot) : List (Value × Value) :=
  s.tables.flatMap fun e => e.2.map (e.1, ·)

/-- Whether the table of a pair is `table` up to case: a text with the lowercase of
`table`. -/
def spellsTable (table : String) (p : Value × Value) : Bool :=
  match p.2 with
  | .str t => Text.lowerString t == Text.lowerString table
  | _ => false

/-- Whether the database of a pair passes the filter of `database`: no database counts as
given (absent or empty), or the pair's database is it up to case. -/
def inDatabase (database : Option String) (p : Value × Value) : Bool :=
  match database with
  | none => true
  | some d => d.isEmpty ||
    match p.1 with
    | .str e => Text.lowerString e == Text.lowerString d
    | _ => false

/-- Whether a pair is exactly `table`, in exactly `database` when one is given, an empty one
included. -/
def exactPair (table : String) (database : Option String) (p : Value × Value) : Bool :=
  p.2.same (.str table) && database.all fun d => p.1.same (.str d)

/-- The spelling of `table` a snapshot offers: among the pairs whose database passes the
filter of `database`, the first exact one, else the first one that is `table` up to case. -/
def Snapshot.bestSpelling (s : Snapshot) (table : String) (database : Option String) :
    Option (Value × Value) :=
  let kept := s.pairs.filter (inDatabase database)
  (kept.find? (exactPair table database)).or (kept.find? (spellsTable table))

/-- A snapshot that names its databases and tables by texts. -/
def Snapshot.NamesTexts (s : Snapshot) : Prop :=
  ∀ e ∈ s.tables, e.1.IsText ∧ ∀ t ∈ e.2, t.IsText

/-- A snapshot as a load assembles it from the database list and the table and column
maps its tasks filled. -/
def Snapshot.Assembled (s : Snapshot) : Prop :=
  ∃ databases tablesOf columnsOf, s = Snapshot.assemble databases tablesOf columnsOf

/-! ## What the answer is -/

/-- A value the same as a text is that text. -/
theorem Value.eq_of_same_str {v : Value} {t : String} (h : v.same (.str t) = true) :
    v = .str t := by
  cases v <;> simp_all [Value.same, Value.number?]

/-- An exact pair is spelled as typed. -/
theorem spellsTable_of_exactPair {table : String} {database : Option String}
    {p : Value × Value} (h : exactPair table database p = true) : spellsTable table p = true := by
  obtain ⟨hsame, -⟩ := Bool.and_eq_true_iff.1 h
  rw [spellsTable, Value.eq_of_same_str hsame]
  exact beq_self_eq_true _

namespace Snapshot

variable {s : Snapshot} {table : String} {database : Option String}

/-- **No answer exactly when no pair is spelled as typed in a database that passes the
filter.**  An exact pair is spelled as typed, so the exact search finds nothing when the
case-blind one finds nothing. -/
theorem bestSpelling_eq_none_iff :
    s.bestSpelling table database = none ↔
      ∀ p ∈ s.pairs, ¬ (spellsTable table p = true ∧ inDatabase database p = true) := by
  have hexact : ∀ l : List (Value × Value), l.find? (spellsTable table) = none →
      l.find? (exactPair table database) = none := fun l h =>
    List.find?_eq_none.2 fun p hp hx => List.find?_eq_none.1 h p hp (spellsTable_of_exactPair hx)
  dsimp only [bestSpelling]
  constructor
  · intro h p hp ⟨hspell, hin⟩
    rw [Option.or_eq_none_iff] at h
    exact List.find?_eq_none.1 h.2 p (List.mem_filter.2 ⟨hp, hin⟩) hspell
  · intro h
    have hnone : (s.pairs.filter (inDatabase database)).find? (spellsTable table) = none :=
      List.find?_eq_none.2 fun p hp hspell =>
        h p (List.mem_filter.1 hp).1 ⟨hspell, (List.mem_filter.1 hp).2⟩
    rw [hexact _ hnone, hnone]
    rfl

/-- **An answer is a pair spelled as typed, in a database that passes the filter.** -/
theorem mem_bestSpelling {p : Value × Value} (h : p ∈ s.bestSpelling table database) :
    p ∈ s.pairs ∧ spellsTable table p = true ∧ inDatabase database p = true := by
  dsimp only [bestSpelling] at h
  -- the answer is found by one of the two searches, over the kept pairs
  have hfound : p ∈ s.pairs.filter (inDatabase database) ∧ spellsTable table p = true := by
    cases hx : (s.pairs.filter (inDatabase database)).find? (exactPair table database) with
    | some q =>
      rw [hx, Option.some_or] at h
      obtain rfl := Option.mem_some_iff.1 h
      exact ⟨List.mem_of_find?_eq_some hx, spellsTable_of_exactPair (List.find?_some hx)⟩
    | none =>
      rw [hx, Option.none_or] at h
      exact ⟨List.mem_of_find?_eq_some h, List.find?_some h⟩
  obtain ⟨hkept, hspell⟩ := hfound
  exact ⟨(List.mem_filter.1 hkept).1, hspell, (List.mem_filter.1 hkept).2⟩

end Snapshot

/-! ## The one-pass search -/

section Search

variable {table : String} {database : Option String}

/-- The search among the tables of one database returns the first exact pair as a hit, or
else goes on with the fallback it had, or with the first pair spelled as typed if it had
none. -/
theorem locateAmong_eq (db : Value) :
    ∀ (cs : List Value) (fallback : Option (Value × Value)), (∀ c ∈ cs, c.IsText) →
      locateAmong (.str table) (database.map .str) (Text.lowerString table) db cs fallback =
        .ok (((cs.map (db, ·)).find? (exactPair table database)).elim
          (.inr (fallback.or ((cs.map (db, ·)).find? (spellsTable table)))) .inl)
  | [], fallback, _ => by simp [locateAmong]
  | c :: cs, fallback, hcs => by
    obtain ⟨t, rfl⟩ := hcs c List.mem_cons_self
    have hrest : ∀ c' ∈ cs, c'.IsText := fun c' h => hcs c' (List.mem_cons_of_mem _ h)
    have hexact : ((Value.str t).same (.str table) && (database.map Value.str).all db.same) =
        exactPair table database (db, .str t) := by
      rw [Option.all_map]
      rfl
    simp only [locateAmong, hexact]
    by_cases hx : exactPair table database (db, .str t) = true
    · simp [hx]
    · simp only [hx, Bool.false_eq_true, if_false, List.map_cons, List.find?_cons]
      -- with a fallback the table is not lowercased; without one it may become the fallback
      cases fallback with
      | some f => simp [locateAmong_eq db cs (some f) hrest]
      | none =>
        show locateAmong _ _ _ db cs _ = _
        rw [locateAmong_eq db cs _ hrest]
        by_cases hs : spellsTable table (db, .str t) = true <;>
          simp only [spellsTable] at hs <;> simp [hs, spellsTable]

/-- The pairs of one database are all kept by the filter of `database`, or all dropped: the
filter reads only the database. -/
theorem filter_inDatabase_map (d : Value) (ts : List Value) :
    (ts.map (d, ·)).filter (inDatabase database) =
      if inDatabase database (d, .null) then ts.map (d, ·) else [] := by
  have hsame : ∀ t, inDatabase database (d, t) = inDatabase database (d, .null) := fun _ => rfl
  split
  · next hin =>
    refine List.filter_eq_self.2 fun p hp => ?_
    obtain ⟨t, -, rfl⟩ := List.mem_map.1 hp
    rw [hsame, hin]
  · next hin =>
    refine List.filter_eq_nil_iff.2 fun p hp => ?_
    obtain ⟨t, -, rfl⟩ := List.mem_map.1 hp
    rw [hsame]
    exact hin

/-- One database of the search: a text-named database whose lowercase the wanted one
rejects is skipped; otherwise its tables are searched, and a miss goes on with the rest. -/
theorem locateIn_cons (e : String) (ts : List Value) (rest : List (Value × List Value))
    (fallback : Option (Value × Value)) (wantedDb : Option String) :
    locateIn (.str table) (database.map .str) (Text.lowerString table) wantedDb
        ((.str e, ts) :: rest) fallback =
      if wantedDb.all fun w => Text.lowerString e == w then
        locateAmong (.str table) (database.map .str) (Text.lowerString table) (.str e) ts
            fallback >>=
          Sum.elim (fun hit => .ok (some hit))
            (locateIn (.str table) (database.map .str) (Text.lowerString table) wantedDb rest)
      else locateIn (.str table) (database.map .str) (Text.lowerString table) wantedDb rest
        fallback := by
  -- the skip test is the negation of the filter; the continuation is `Sum.elim`
  cases wantedDb with
  | none =>
    simp only [locateIn, Option.all, if_true, pure_bind, Bool.false_eq_true, if_false]
    congr 1
    funext r
    cases r <;> rfl
  | some w =>
    simp only [locateIn, Value.lowered, Option.all, Except.ok_bind, pure_bind]
    by_cases h : Text.lowerString e = w
    · simp only [h, bne_self_eq_false, beq_self_eq_true, Bool.false_eq_true, if_false, if_true]
      congr 1
      funext r
      cases r <;> rfl
    · simp [h]

/-- **The search through text-named databases is the documented answer.**  With a skip
test that passes exactly the databases the filter of `database` keeps, it returns the
first exact pair among the kept pairs, or else the fallback it had, or else the first kept
pair spelled as typed. -/
theorem locateIn_eq {wantedDb : Option String}
    (hw : ∀ e, (wantedDb.all fun w => Text.lowerString e == w) =
      inDatabase database (.str e, .null)) :
    ∀ (entries : List (Value × List Value)) (fallback : Option (Value × Value)),
      (∀ e ∈ entries, e.1.IsText ∧ ∀ t ∈ e.2, t.IsText) →
      locateIn (.str table) (database.map .str) (Text.lowerString table) wantedDb entries
          fallback =
        .ok ((((entries.flatMap fun e => e.2.map (e.1, ·)).filter (inDatabase database)).find?
            (exactPair table database)).or
          (fallback.or (((entries.flatMap fun e => e.2.map (e.1, ·)).filter
            (inDatabase database)).find? (spellsTable table))))
  | [], fallback, _ => by simp [locateIn]
  | (db, ts) :: rest, fallback, hs => by
    obtain ⟨⟨e, rfl⟩, hts⟩ := hs (db, ts) List.mem_cons_self
    have hrest : ∀ x ∈ rest, x.1.IsText ∧ ∀ t ∈ x.2, t.IsText :=
      fun x hx => hs x (List.mem_cons_of_mem _ hx)
    rw [List.flatMap_cons, List.filter_append, filter_inDatabase_map, List.find?_append,
      List.find?_append, locateIn_cons, hw e]
    dsimp only
    cases hin : inDatabase database (.str e, .null)
    · simp [locateIn_eq hw rest fallback hrest]
    · rw [if_pos rfl, if_pos rfl, locateAmong_eq _ ts fallback hts]
      cases hA : (ts.map (Value.str e, ·)).find? (exactPair table database) with
      | some hit => rfl
      | none =>
        show locateIn _ _ _ _ rest _ = _
        rw [locateIn_eq hw rest _ hrest]
        simp [Option.or_assoc]

/-- **The one-pass search is the documented answer.**  Over a snapshot that names its
databases and tables by texts, locating a table typed as a text, in a database typed as a
text or in none, returns the snapshot's best spelling of it. -/
theorem Snapshot.locate_eq_bestSpelling {s : Snapshot} (hs : s.NamesTexts) (table : String)
    (database : Option String) :
    s.locate (.str table) (database.map .str) = .ok (s.bestSpelling table database) := by
  have hsearch : ∀ wantedDb : Option String,
      (∀ e, (wantedDb.all fun w => Text.lowerString e == w) =
        inDatabase database (.str e, .null)) →
      locateIn (.str table) (database.map .str) (Text.lowerString table) wantedDb s.tables none =
        .ok (s.bestSpelling table database) := by
    intro wantedDb hw
    rw [locateIn_eq hw s.tables none hs, Option.none_or]
    rfl
  simp only [Snapshot.locate, Value.lowered, Except.ok_bind]
  -- the wanted database is the lowercase of a typed database that counts as given
  cases database with
  | none => exact hsearch none fun _ => rfl
  | some d =>
    by_cases hd : d.isEmpty = true
    · simp only [Option.map_some, Value.isFalsy, hd, if_true]
      exact hsearch none fun e => by simp [inDatabase, hd]
    · simp only [Option.map_some, Value.isFalsy, hd, Bool.false_eq_true, if_false]
      exact hsearch (some (Text.lowerString d)) fun e => by simp [inDatabase, hd]

end Search

/-! ## Where the answer is cached -/

section Folding

variable {κ α : Type} [SameKey κ]

/-- Puts of keys and values with two properties keep every entry with them. -/
theorem foldl_put_forall (Pk : κ → Prop) (Pv : α → Prop) (f : κ → α) :
    ∀ (ks : List κ) (m : KeyMap κ α), (∀ e ∈ m, Pk e.1 ∧ Pv e.2) →
      (∀ k ∈ ks, Pk k ∧ Pv (f k)) →
      ∀ e ∈ ks.foldl (fun m k => KeyMap.put m k (f k)) m, Pk e.1 ∧ Pv e.2
  | [], _, hm, _ => hm
  | k :: ks, m, hm, hks => by
    have hk := hks k List.mem_cons_self
    refine foldl_put_forall Pk Pv f ks (KeyMap.put m k (f k)) ?_
      fun k' hk' => hks k' (List.mem_cons_of_mem _ hk')
    intro e he
    rcases KeyMap.mem_put he with he | ⟨a, ha, rfl, -⟩ | rfl
    · exact hm e he
    · exact ⟨(hm a ha).1, hk.2⟩
    · exact hk

/-- Puts keep every key there was, exactly. -/
theorem foldl_put_key_mem (f : κ → α) {k' : κ} :
    ∀ (ks : List κ) (m : KeyMap κ α), (∃ e ∈ m, e.1 = k') →
      ∃ e ∈ ks.foldl (fun m k => KeyMap.put m k (f k)) m, e.1 = k'
  | [], _, h => h
  | _ :: ks, _, h => foldl_put_key_mem f ks _ (KeyMap.key_mem_put h)

/-- Putting keys one by one, among keys where the same key is the equal key, leaves an
entry of exactly each key put. -/
theorem foldl_put_covers (f : κ → α) {P : κ → Prop}
    (hsame : ∀ a b, P a → P b → SameKey.same a b = true → a = b) :
    ∀ (ks : List κ) (m : KeyMap κ α), (∀ e ∈ m, P e.1) → (∀ k ∈ ks, P k) →
      ∀ k ∈ ks, ∃ e ∈ ks.foldl (fun m k => KeyMap.put m k (f k)) m, e.1 = k
  | [], _, _, _, _, hk => absurd hk List.not_mem_nil
  | k :: ks, m, hm, hks, k', hk' => by
    have hk := hks k List.mem_cons_self
    rcases List.mem_cons.1 hk' with rfl | hk'
    · exact foldl_put_key_mem f ks _ (KeyMap.key_put fun e he hs => hsame _ _ (hm e he) hk hs)
    · refine foldl_put_covers f hsame ks _ ?_ (fun x hx => hks x (List.mem_cons_of_mem _ hx)) k' hk'
      intro e he
      rcases KeyMap.mem_put he with he | ⟨a, ha, rfl, -⟩ | rfl
      · exact hm e he
      · exact hm a ha
      · exact hk

end Folding

/-- On pairs of texts the same key is the equal key. -/
theorem TextPair.eq_of_same {a b : Value × Value} (ha : TextPair a) (hb : TextPair b)
    (h : SameKey.same a b = true) : a = b := by
  rw [SameKey.same_pair, Bool.and_eq_true_iff, Value.same_iff_of_isText ha.1 hb.1,
    Value.same_iff_of_isText ha.2 hb.2] at h
  exact Prod.ext h.1 h.2

/-- A snapshot assembled from texts names its databases and tables by texts. -/
theorem Snapshot.assemble_namesTexts {dbs : List Value} {tablesOf : KeyMap Value (List Value)}
    (hdbs : ∀ d ∈ dbs, d.IsText) (htables : ∀ e ∈ tablesOf, ∀ t ∈ e.2, t.IsText)
    (columnsOf : KeyMap (Value × Value) (List ColumnEntry)) :
    (Snapshot.assemble dbs tablesOf columnsOf).NamesTexts := by
  refine foldl_put_forall Value.IsText (fun ts : List Value => ∀ t ∈ ts, Value.IsText t) _ dbs []
    (fun _ h => absurd h List.not_mem_nil) fun d hd => ⟨hdbs d hd, fun t ht => ?_⟩
  -- the tables of a database are those filed under it, or none
  cases hget : KeyMap.get? tablesOf d with
  | none => simp [hget] at ht
  | some ts =>
    rw [hget, Option.getD_some] at ht
    obtain ⟨k, hk⟩ := KeyMap.mem_of_get? hget
    exact htables _ hk t ht

/-- **An assembled snapshot named by texts has a column list for each of its pairs.**  Its
column map is filled by putting each pair in turn, and on pairs of texts the same key is the
equal key, so each pair is a key of the map exactly. -/
theorem Snapshot.pairs_mem_columns {s : Snapshot} (hs : s.NamesTexts) (ha : s.Assembled) :
    ∀ p ∈ s.pairs, ∃ cs, (p, cs) ∈ s.columns := by
  obtain ⟨dbs, tablesOf, columnsOf, rfl⟩ := ha
  have hpairs : ∀ p ∈ (Snapshot.assemble dbs tablesOf columnsOf).pairs, TextPair p := by
    intro p hp
    obtain ⟨e, he, hpe⟩ := List.mem_flatMap.1 hp
    obtain ⟨t, ht, rfl⟩ := List.mem_map.1 hpe
    exact ⟨(hs e he).1, (hs e he).2 t ht⟩
  have hcols : (Snapshot.assemble dbs tablesOf columnsOf).columns =
      (Snapshot.assemble dbs tablesOf columnsOf).pairs.foldl
        (fun m k => KeyMap.put m k ((KeyMap.get? columnsOf k).getD [])) [] := rfl
  intro p hp
  rw [hcols]
  obtain ⟨e, he, hep⟩ := foldl_put_covers (fun k => (KeyMap.get? columnsOf k).getD [])
    (fun _ _ ha hb h => TextPair.eq_of_same ha hb h) _ [] (fun _ h => absurd h List.not_mem_nil)
    hpairs p hp
  refine ⟨e.2, ?_⟩
  rw [← hep]
  exact he

/-! ## The cache -/

/-- **The cache offers the best cached spelling of a table.**  For a name whose cached
snapshot is one a load assembled, naming its databases and tables by texts, locating a
table typed as a text, in a database typed as a text or in none, never fails: it gives
nothing when the name is not cached, and else the snapshot's best spelling, the first pair
exactly as typed among the pairs whose database passes the filter, or else the first one
spelled as typed up to case.  There is no answer exactly when no pair is spelled as typed
in a database that passes the filter; an answer is such a pair, and a key of the snapshot's
column map. -/
theorem Cache.locate?_bestSpelling (c : Cache) (name table : String) (database : Option String)
    (hc : ∀ s, c.snapshot? name = some s → s.Assembled ∧ s.NamesTexts) :
    c.locate? name (.str table) (database.map .str) =
        .ok ((c.snapshot? name).bind fun s => s.bestSpelling table database) ∧
      ∀ s, c.snapshot? name = some s →
        (s.bestSpelling table database = none ↔
          ∀ p ∈ s.pairs, ¬ (spellsTable table p = true ∧ inDatabase database p = true)) ∧
        ∀ p ∈ s.bestSpelling table database,
          p ∈ s.pairs ∧ spellsTable table p = true ∧ inDatabase database p = true ∧
            ∃ cs, (p, cs) ∈ s.columns := by
  refine ⟨?_, fun s hs => ⟨Snapshot.bestSpelling_eq_none_iff, fun p hp => ?_⟩⟩
  · unfold locate?
    cases hs : c.snapshot? name with
    | none => rfl
    | some s => exact Snapshot.locate_eq_bestSpelling (hc s hs).2 table database
  · obtain ⟨hpair, hspell, hin⟩ := Snapshot.mem_bestSpelling hp
    exact ⟨hpair, hspell, hin, Snapshot.pairs_mem_columns (hc s hs).2 (hc s hs).1 p hpair⟩

/-- A cache holding, under `local`, the snapshot of the catalog with the table `Users` of the
database `Main` and the table `users` of the database `shop`, as a load assembles it. -/
def spellingCache : Cache :=
  ({} : Cache).publish "local" (Snapshot.assemble [.str "Main", .str "shop"]
    [(.str "Main", [.str "Users"]), (.str "shop", [.str "users"])]
    [((.str "Main", .str "Users"), [.column (col "id" "int")]),
      ((.str "shop", .str "users"), [.column (col "id" "int")])])

theorem spellingCache_assembled :
    ∀ s, spellingCache.snapshot? "local" = some s → s.Assembled ∧ s.NamesTexts := by
  intro s hs
  obtain rfl := Option.some.inj hs
  refine ⟨⟨_, _, _, rfl⟩, Snapshot.assemble_namesTexts ?_ ?_ _⟩
  · simp [Value.IsText]
  · simp [Value.IsText]

/-- Typed `USERS` with no database, the cache of `Main.Users` and `shop.users` answers its
best spelling. -/
theorem Cache.locate?_bestSpelling_users :
    (∀ s, spellingCache.snapshot? "local" = some s → s.Assembled ∧ s.NamesTexts) ∧
      (spellingCache.locate? "local" (.str "USERS") none =
          .ok ((spellingCache.snapshot? "local").bind fun s => s.bestSpelling "USERS" none) ∧
        ∀ s, spellingCache.snapshot? "local" = some s →
          (s.bestSpelling "USERS" none = none ↔
            ∀ p ∈ s.pairs, ¬ (spellsTable "USERS" p = true ∧ inDatabase none p = true)) ∧
          ∀ p ∈ s.bestSpelling "USERS" none,
            p ∈ s.pairs ∧ spellsTable "USERS" p = true ∧ inDatabase none p = true ∧
              ∃ cs, (p, cs) ∈ s.columns) :=
  ⟨spellingCache_assembled,
    Cache.locate?_bestSpelling spellingCache "local" "USERS" none spellingCache_assembled⟩

/-- **A table named by a number stops the search.**  A scripted source lists one database
`d` whose one table is the number `1`; the load caches its snapshot, and locating the table
`x` fails lowercasing that table instead of finding no table. -/
theorem World.locate?_number_named_table :
    let w : World := { sources := [("a", .scripted [("databases", .returns (.list [.str "d"])),
      ("tables:d", .returns (.list [.int 1]))] [])] }
    (w.load "ds" "a").1.cache.has "ds" = true ∧
      (w.load "ds" "a").1.cache.locate? "ds" (.str "x") none = .error (.noAttribute "int" "lower") := by
  cbv

end SqlAssist.Schema
