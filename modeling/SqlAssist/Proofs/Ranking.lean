import SqlAssist.Service
import SqlAssist.Proofs.BuildSort
import Mathlib

/-!
# Ranked completions

A completion list is *ranked* for the word typed so far when every item carries, in its
sort text, the priority of its own label for that word (`0_name` for a prefix match,
`1_name` for a match inside the name), and no match inside a name comes before a prefix
match.  Trimming such a list to its first items then never keeps a weaker match while it
drops a stronger one.

## How each path keeps the ranking

There are two ways a batch of items is made, and each keeps the ranking for its own
reason.

* `build` filters one candidate list and sorts the matches by priority and then position:
  the prefix matches come first (`build_eq_passes`), so the ranking holds
  (`build_ranked`).
* Paths that gather several batches (the tables of every database, the columns of the
  referenced tables, every column of every table) concatenate them and hand the whole to
  `rank`, a stable sort by the priority written in the sort text.  Concatenation alone
  would break the order; the sort restores it, and it needs only that every item carries
  its priority (`rank_ranked`).

The service (`SqlAssist.Service.complete`) then picks one path by the context under the
cursor and trims by its item bound, and trimming takes a prefix, which keeps the ranking
(`Ranked.take`).

## When a path cannot fail

Names reach the builders from the cache as values, and a name that is not a text cannot
be lowercased to be matched.  A source that keeps its contract gives texts for database
and table names and columns named by texts (`Schema.Snapshot.Textual`); over such a
snapshot every path returns its items.  A scripted source may break the contract, and then
the request stops with the misuse of the first name it cannot match.

## Main statements

* `build_ranked`, `rank_ranked`: the two ways of making a batch.
* `Service.complete_ranked`: over a textual snapshot, `complete` returns the list of the
  unbounded call trimmed as a slice bound trims it, and that list is ranked for the typed
  word (in upper case when keywords are offered).
-/

namespace SqlAssist.Completion

/-! ## Priorities -/

/-- An item carries the priority of its label for `typed` in its sort text. -/
def Item.RanksFor (typed : String) (i : Item) : Prop :=
  ∃ p, priority i.label typed = some p ∧ i.sortText = toString p ++ "_" ++ i.label

/-- The rank key of an item that carries its priority is that priority, written out. -/
theorem Item.rankKey_of_ranksFor {typed : String} {i : Item} {p : Nat}
    (hp : priority i.label typed = some p) (hs : i.sortText = toString p ++ "_" ++ i.label) :
    i.rankKey = toString p := by
  have hle := priority_le_one hp
  rw [Item.rankKey, hs]
  obtain rfl | rfl : p = 0 ∨ p = 1 := by omega
  · rw [show toString 0 = "0" from rfl]
    simp
  · rw [show toString 1 = "1" from rfl]
    simp

/-- Items ranked for the typed word: each carries its priority, and a prefix match is
preceded only by prefix matches. -/
structure Ranked (typed : String) (items : List Item) : Prop where
  carries : ∀ i ∈ items, i.RanksFor typed
  prefixFirst : items.Pairwise fun a b =>
    priority b.label typed = some 0 → priority a.label typed = some 0

/-- Dropping items keeps a ranking. -/
theorem Ranked.sublist {typed : String} {xs ys : List Item} (h : Ranked typed ys)
    (hsub : xs.Sublist ys) : Ranked typed xs :=
  ⟨fun i hi => h.carries i (hsub.subset hi), h.prefixFirst.sublist hsub⟩

/-- The first items of a ranked list are ranked. -/
theorem Ranked.take {typed : String} {items : List Item} (h : Ranked typed items) (n : Nat) :
    Ranked typed (items.take n) :=
  h.sublist (List.take_sublist n items)

/-! ## Building one batch -/

/-- The items at one priority are the matching candidates at that priority, each made into
its item. -/
theorem mem_itemsAt {kind : Kind} {detail : String → Value} {documentation : String → String}
    {typed : String} {p : Nat} {names : List String} {i : Item} :
    i ∈ itemsAt kind detail documentation typed p names ↔
      ∃ n ∈ names, priority n typed = some p ∧ i = makeItem kind detail documentation n p := by
  simp only [itemsAt, List.mem_filterMap]
  constructor
  · rintro ⟨n, hn, hi⟩
    split at hi
    · cases hi
      exact ⟨n, hn, ‹_›, rfl⟩
    · cases hi
  · rintro ⟨n, hn, hp, rfl⟩
    exact ⟨n, hn, by simp [hp]⟩

/-- Every item at priority `p` carries that priority. -/
theorem ranksFor_of_mem_itemsAt {kind : Kind} {detail : String → Value}
    {documentation : String → String} {typed : String} {p : Nat} {names : List String}
    {i : Item} (h : i ∈ itemsAt kind detail documentation typed p names) :
    i.RanksFor typed ∧ priority i.label typed = some p := by
  obtain ⟨n, -, hp, rfl⟩ := mem_itemsAt.mp h
  exact ⟨⟨p, hp, rfl⟩, hp⟩

/-- **A built batch is ranked**: prefix matches come first by construction. -/
theorem build_ranked (kind : Kind) (names : List String) (typed : String)
    (detail : String → Value) (documentation : String → String) :
    Ranked typed (build kind names typed detail documentation) := by
  rw [build_eq_passes]
  refine ⟨?_, ?_⟩
  · intro i hi
    rcases List.mem_append.mp hi with hi | hi
    · exact (ranksFor_of_mem_itemsAt hi).1
    · exact (ranksFor_of_mem_itemsAt hi).1
  · rw [List.pairwise_append]
    refine ⟨?_, ?_, ?_⟩
    · -- every earlier item is itself a prefix match
      exact List.Pairwise.imp_of_mem (fun ha _ _ _ => (ranksFor_of_mem_itemsAt ha).2)
        (List.pairwise_of_forall fun _ _ => trivial)
    · -- no later item is a prefix match
      refine List.Pairwise.imp_of_mem (fun _ hb _ h0 => ?_)
        (List.pairwise_of_forall fun _ _ => trivial)
      rw [(ranksFor_of_mem_itemsAt hb).2] at h0
      cases h0
    · intro a ha _ _ _
      exact (ranksFor_of_mem_itemsAt ha).2

/-! ## Merging batches -/

/-- The order `rank` sorts by. -/
theorem rank_pairwise (items : List Item) :
    (rank items).Pairwise fun a b => decide (a.rankKey ≤ b.rankKey) := by
  apply List.pairwise_mergeSort
  · intro a b c hab hbc
    simp only [decide_eq_true_eq] at *
    exact le_trans hab hbc
  · intro a b
    simpa using le_total a.rankKey b.rankKey

/-- **Merged batches are ranked** as soon as every item carries its priority: the stable
sort by rank key puts the prefix matches first. -/
theorem rank_ranked {typed : String} {items : List Item}
    (h : ∀ i ∈ items, i.RanksFor typed) : Ranked typed (rank items) := by
  have hcarry : ∀ i ∈ rank items, i.RanksFor typed := fun i hi =>
    h i ((List.mergeSort_perm items _).subset hi)
  refine ⟨hcarry, ?_⟩
  refine List.Pairwise.imp_of_mem (fun {a b} ha hb hle h0 => ?_) (rank_pairwise items)
  obtain ⟨p, hp, hs⟩ := hcarry a ha
  obtain ⟨q, hq, hs'⟩ := hcarry b hb
  rw [h0] at hq
  cases hq
  have hka := Item.rankKey_of_ranksFor hp hs
  have hkb := Item.rankKey_of_ranksFor h0 hs'
  rw [hka, hkb, decide_eq_true_eq] at hle
  obtain rfl | rfl : p = 0 ∨ p = 1 := by have := priority_le_one hp; omega
  · exact hp
  · exact absurd hle (by decide)

end SqlAssist.Completion

/-! ## Steps that return

`e.Returns Q` says that the step `e` succeeds with a value satisfying `Q`.  Binds, list
traversals and filters return when each of their parts does, so the proofs below follow
the shape of the code and never split on a failure. -/

namespace Except

/-- The step succeeds, with a value satisfying `Q`. -/
def Returns {ε α : Type} (e : Except ε α) (Q : α → Prop) : Prop :=
  ∃ a, e = .ok a ∧ Q a

namespace Returns

variable {ε α β : Type}

theorem ok {a : α} {Q : α → Prop} (h : Q a) : (Except.ok a : Except ε α).Returns Q :=
  ⟨a, rfl, h⟩

theorem bind {x : Except ε α} {f : α → Except ε β} {P : α → Prop} {Q : β → Prop}
    (hx : x.Returns P) (hf : ∀ a, P a → (f a).Returns Q) : (x >>= f).Returns Q := by
  obtain ⟨a, rfl, ha⟩ := hx
  exact hf a ha

theorem mono {e : Except ε α} {P Q : α → Prop} (h : e.Returns P) (hPQ : ∀ a, P a → Q a) :
    e.Returns Q := by
  obtain ⟨a, rfl, ha⟩ := h
  exact ⟨a, rfl, hPQ a ha⟩

theorem map {e : Except ε α} {f : α → β} {P : α → Prop} {Q : β → Prop} (h : e.Returns P)
    (hf : ∀ a, P a → Q (f a)) : (e.map f).Returns Q := by
  obtain ⟨a, rfl, ha⟩ := h
  exact ⟨f a, rfl, hf a ha⟩

/-- A traversal returns when every step does, with every result as its step promised. -/
theorem mapM {f : α → Except ε β} {P : β → Prop} :
    ∀ {xs : List α}, (∀ x ∈ xs, (f x).Returns P) →
      (xs.mapM f).Returns fun ys => ∀ y ∈ ys, P y
  | [], _ => ⟨[], rfl, by simp⟩
  | x :: xs, h => by
    obtain ⟨y, hy, hP⟩ := h x List.mem_cons_self
    have hrest : (xs.mapM f).Returns fun ys => ∀ y ∈ ys, P y :=
      mapM fun x hx => h x (List.mem_cons_of_mem _ hx)
    obtain ⟨ys, hys, hPs⟩ := hrest
    refine ⟨y :: ys, ?_, ?_⟩
    · rw [List.mapM_cons, hy, hys]
      rfl
    · intro z hz
      rcases List.mem_cons.mp hz with rfl | hz
      · exact hP
      · exact hPs z hz

/-- The accumulating pass of a filter whose test returns everywhere. -/
theorem filterAuxM_eq {p : α → Except ε Bool} {q : α → Bool} :
    ∀ {xs : List α} (acc : List α), (∀ x ∈ xs, p x = .ok (q x)) →
      List.filterAuxM p xs acc = .ok ((xs.filter q).reverse ++ acc)
  | [], _, _ => rfl
  | x :: xs, acc, h => by
    have hrest : List.filterAuxM p xs (cond (q x) (x :: acc) acc) =
        .ok ((xs.filter q).reverse ++ cond (q x) (x :: acc) acc) :=
      filterAuxM_eq _ fun y hy => h y (List.mem_cons_of_mem _ hy)
    rw [List.filterAuxM, h x List.mem_cons_self]
    show List.filterAuxM p xs (cond (q x) (x :: acc) acc) = _
    rw [hrest]
    cases hq : q x <;> simp [hq]

/-- A filter whose test returns everywhere keeps the elements its test accepts. -/
theorem filterM {p : α → Except ε Bool} {q : α → Bool} {xs : List α}
    (h : ∀ x ∈ xs, p x = .ok (q x)) : (xs.filterM p).Returns (· = xs.filter q) := by
  refine ⟨xs.filter q, ?_, rfl⟩
  show (List.filterAuxM p xs [] >>= fun ys => pure ys.reverse) = _
  rw [filterAuxM_eq [] h, List.append_nil]
  show Except.ok (xs.filter q).reverse.reverse = _
  rw [List.reverse_reverse]

end Returns

end Except

namespace SqlAssist

/-! ## Names as texts -/

/-- A value that is a text. -/
def Value.IsText (v : Value) : Prop := ∃ s, v = .str s

/-- A text can be a key. -/
theorem Value.IsText.checkKey {v : Value} (h : v.IsText) : v.checkKey = .ok () := by
  obtain ⟨s, rfl⟩ := h
  rfl

/-- A text can be lowercased. -/
theorem Value.IsText.lowered {v : Value} (h : v.IsText) : v.lowered.Returns fun _ => True := by
  obtain ⟨s, rfl⟩ := h
  exact Except.Returns.ok trivial

namespace Schema

/-- A snapshot as a source that keeps its contract gives it: database and table names are
texts, and every column list holds columns named by texts. -/
structure Snapshot.Textual (s : Snapshot) : Prop where
  databases : ∀ d ∈ s.databases, d.IsText
  tables : ∀ e ∈ s.tables, e.1.IsText ∧ ∀ t ∈ e.2, t.IsText
  columns : ∀ e ∈ s.columns, ∀ c ∈ e.2, ∃ col, c = .column col ∧ col.name.IsText

/-- Column entries that are columns named by texts. -/
def TextColumns (es : List ColumnEntry) : Prop :=
  ∀ c ∈ es, ∃ col, c = .column col ∧ col.name.IsText

end Schema

/-- Both names of a located table are texts. -/
def TextPair (p : Value × Value) : Prop := p.1.IsText ∧ p.2.IsText

/-- A value found in a key map is the value of one of its entries. -/
theorem KeyMap.mem_of_get? {κ α : Type} [SameKey κ] {m : KeyMap κ α} {k : κ} {v : α}
    (h : KeyMap.get? m k = some v) : ∃ k', (k', v) ∈ m := by
  rw [KeyMap.get?, Option.map_eq_some_iff] at h
  obtain ⟨⟨k', v'⟩, hfind, rfl⟩ := h
  exact ⟨k', List.mem_of_find?_eq_some hfind⟩

end SqlAssist

namespace SqlAssist.Completion

open Schema

/-! ## Batches over texts -/

/-- Candidates that are texts can all be matched. -/
theorem candidateTexts_returns {names : List Value} (h : ∀ v ∈ names, v.IsText) :
    (candidateTexts names).Returns fun _ => True :=
  (Except.Returns.mapM fun v hv => by
    obtain ⟨s, rfl⟩ := h v hv
    exact Except.Returns.ok trivial).mono fun _ _ => trivial

theorem databaseItems_ranked {names : List Value} (h : ∀ v ∈ names, v.IsText)
    (typed : String) : (databaseItems names typed).Returns (Ranked typed) :=
  (candidateTexts_returns h).bind fun _ _ => .ok (build_ranked ..)

theorem tableItems_ranked {names : List Value} (h : ∀ v ∈ names, v.IsText) (typed : String)
    (database : Option Value) : (tableItems names typed database).Returns (Ranked typed) :=
  (candidateTexts_returns h).bind fun _ _ => .ok (build_ranked ..)

/-- No items are ranked. -/
theorem ranked_nil (typed : String) : Ranked typed [] :=
  ⟨fun _ h => by simp at h, List.Pairwise.nil⟩

/-- The items of ranked batches all carry their priority. -/
theorem ranksFor_of_mem_flatten {typed : String} {batches : List (List Item)}
    (h : ∀ b ∈ batches, Ranked typed b) : ∀ i ∈ batches.flatten, i.RanksFor typed := by
  intro i hi
  obtain ⟨b, hb, hib⟩ := List.mem_flatten.mp hi
  exact (h b hb).carries i hib

theorem allTableItems_ranked {tables : KeyMap Value (List Value)}
    (h : ∀ e ∈ tables, ∀ t ∈ e.2, t.IsText) (typed : String) :
    (allTableItems tables typed).Returns (Ranked typed) := by
  refine (Except.Returns.mapM ?_).bind fun batches hb =>
    .ok (rank_ranked (ranksFor_of_mem_flatten hb))
  rintro ⟨d, ts⟩ he
  exact tableItems_ranked (h _ he) typed _

/-- The column entries of a text-named column list pass the checks of `columnItems`. -/
theorem checkedColumn_returns {e : ColumnEntry} (h : ∃ col, e = .column col ∧ col.name.IsText) :
    (do
      let c ← e.column?
      c.name.checkKey
      Except.ok c : Except Misuse Column).Returns fun c => c.name.IsText := by
  obtain ⟨col, rfl, hname⟩ := h
  show (col.name.checkKey >>= fun _ => Except.ok col).Returns _
  rw [hname.checkKey]
  exact Except.Returns.ok hname

theorem columnItems_ranked {entries : List ColumnEntry} (h : TextColumns entries)
    (typed : String) (table : Option Value) (aliasName : Option String) :
    (columnItems entries typed table aliasName).Returns (Ranked typed) := by
  refine (Except.Returns.mapM fun e he => checkedColumn_returns (h e he)).bind
    fun cols hcols => ?_
  refine (candidateTexts_returns ?_).bind fun _ _ => .ok (build_ranked ..)
  intro v hv
  obtain ⟨c, hc, rfl⟩ := List.mem_map.mp hv
  exact hcols c hc

theorem keywordItems_ranked (entries : List KeywordEntry) (typed : String) :
    Ranked (Text.upperString typed) (keywordItems entries typed) :=
  build_ranked ..

end SqlAssist.Completion

namespace SqlAssist.Schema

/-! ## Reading a textual snapshot -/

section Locate

variable {table : Value} {database : Option Value} {wanted : String}

/-- The search among the tables of one database returns, with a text pair as its hit or
its fallback. -/
theorem locateAmong_returns {db : Value} (hdb : db.IsText) :
    ∀ {cs : List Value} {fallback : Option (Value × Value)}, (∀ c ∈ cs, c.IsText) →
      (∀ p ∈ fallback, TextPair p) →
      (locateAmong table database wanted db cs fallback).Returns
        (Sum.elim TextPair fun f => ∀ p ∈ f, TextPair p)
  | [], _, _, hf => Except.Returns.ok hf
  | c :: cs, fallback, hcs, hf => by
    have hc := hcs c List.mem_cons_self
    have hrest : ∀ c' ∈ cs, c'.IsText := fun c' h => hcs c' (List.mem_cons_of_mem _ h)
    simp only [locateAmong]
    split
    · exact Except.Returns.ok ⟨hdb, hc⟩
    · split
      · exact locateAmong_returns hdb hrest hf
      · refine hc.lowered.bind fun l _ => locateAmong_returns hdb hrest ?_
        intro p hp
        split at hp
        · cases hp
          exact ⟨hdb, hc⟩
        · cases hp

/-- The search through the databases returns, with a text pair if it finds one. -/
theorem locateIn_returns {wantedDb : Option String} :
    ∀ {entries : List (Value × List Value)} {fallback : Option (Value × Value)},
      (∀ e ∈ entries, e.1.IsText ∧ ∀ t ∈ e.2, t.IsText) → (∀ p ∈ fallback, TextPair p) →
      (locateIn table database wanted wantedDb entries fallback).Returns
        fun r => ∀ p ∈ r, TextPair p
  | [], _, _, hf => Except.Returns.ok hf
  | (db, ts) :: rest, fallback, he, hf => by
    obtain ⟨hdb, hts⟩ := he (db, ts) List.mem_cons_self
    have hrest : ∀ e ∈ rest, e.1.IsText ∧ ∀ t ∈ e.2, t.IsText :=
      fun e h => he e (List.mem_cons_of_mem _ h)
    simp only [locateIn]
    -- whether the database is skipped is decided without failing
    cases wantedDb
    on_goal 1 =>
      refine Except.Returns.bind (Except.Returns.ok (Q := fun _ => True) trivial) fun skip _ => ?_
    on_goal 2 =>
      refine hdb.lowered.bind fun _ _ =>
        Except.Returns.bind (Except.Returns.ok (Q := fun _ => True) trivial) fun skip _ => ?_
    -- after the skip test, the rest of the search
    all_goals
      split
      · exact locateIn_returns hrest hf
      · refine (locateAmong_returns hdb hts hf).bind fun r hr => ?_
        cases r with
        | inl hit => exact Except.Returns.ok fun p hp => (Option.some.inj hp) ▸ hr
        | inr f => exact locateIn_returns hrest hr

/-- Locating a text in a textual snapshot returns, with a text pair if it finds one. -/
theorem Snapshot.locate_returns {s : Snapshot} (hs : s.Textual) (htab : table.IsText)
    (hdb : ∀ d ∈ database, d.IsText) :
    (s.locate table database).Returns fun r => ∀ p ∈ r, TextPair p := by
  unfold Snapshot.locate
  refine htab.lowered.bind fun wanted _ => ?_
  have hsearch : ∀ wantedDb, (locateIn table database wanted wantedDb s.tables none).Returns
      fun r => ∀ p ∈ r, TextPair p :=
    fun _ => locateIn_returns hs.tables fun _ h => by simp at h
  -- the lowercase of a wanted database is taken without failing
  cases database with
  | none => exact Except.Returns.bind (P := fun _ => True) ⟨_, rfl, trivial⟩ fun _ _ => hsearch _
  | some d =>
    obtain ⟨n, rfl⟩ := hdb d rfl
    dsimp only
    split
    · exact Except.Returns.bind (P := fun _ => True) ⟨_, rfl, trivial⟩ fun _ _ => hsearch _
    · exact Except.Returns.bind (P := fun _ => True) ⟨_, rfl, trivial⟩ fun _ _ => hsearch _

end Locate

namespace Cache

variable {c : Cache} {name : String}

/-- Every snapshot the cache holds for a name is textual. -/
def TextualAt (c : Cache) (name : String) : Prop :=
  ∀ s, c.snapshot? name = some s → s.Textual

theorem databases?_text (ht : c.TextualAt name) : ∀ ds ∈ c.databases? name, ∀ d ∈ ds, d.IsText := by
  intro ds hds
  obtain ⟨s, hs, rfl⟩ := Option.map_eq_some_iff.mp hds
  exact (ht s hs).databases

theorem allTables?_text (ht : c.TextualAt name) :
    ∀ m ∈ c.allTables? name, ∀ e ∈ m, e.1.IsText ∧ ∀ t ∈ e.2, t.IsText := by
  intro m hm
  obtain ⟨s, hs, rfl⟩ := Option.map_eq_some_iff.mp hm
  exact (ht s hs).tables

theorem tables?_returns (ht : c.TextualAt name) {d : Value} (hd : d.IsText) :
    (c.tables? name d).Returns fun r => ∀ ts ∈ r, ∀ t ∈ ts, t.IsText := by
  unfold tables?
  cases hs : c.snapshot? name with
  | none => exact Except.Returns.ok fun _ h => by simp at h
  | some s =>
    show (d.checkKey >>= fun _ => Except.ok (KeyMap.get? s.tables d)).Returns _
    rw [hd.checkKey]
    refine Except.Returns.ok fun ts hts => ?_
    obtain ⟨k, hk⟩ := KeyMap.mem_of_get? hts
    exact ((ht s hs).tables _ hk).2

theorem columns?_returns (ht : c.TextualAt name) {d t : Value} (hd : d.IsText)
    (htt : t.IsText) : (c.columns? name d t).Returns fun r => ∀ es ∈ r, TextColumns es := by
  unfold columns?
  cases hs : c.snapshot? name with
  | none => exact Except.Returns.ok fun _ h => by simp at h
  | some s =>
    show (d.checkKey >>= fun _ => t.checkKey >>= fun _ =>
      Except.ok (KeyMap.get? s.columns (d, t))).Returns _
    rw [hd.checkKey, htt.checkKey]
    refine Except.Returns.ok fun es hes => ?_
    obtain ⟨k, hk⟩ := KeyMap.mem_of_get? hes
    exact (ht s hs).columns _ hk

theorem locate?_returns (ht : c.TextualAt name) {table : Value} (htab : table.IsText)
    {database : Option Value} (hdb : ∀ d ∈ database, d.IsText) :
    (c.locate? name table database).Returns fun r => ∀ p ∈ r, TextPair p := by
  unfold locate?
  cases hs : c.snapshot? name with
  | none => exact Except.Returns.ok fun _ h => by simp at h
  | some s => exact Snapshot.locate_returns (ht s hs) htab hdb

end Cache

end SqlAssist.Schema

namespace SqlAssist.Completion

open Schema

/-! ## The columns of the referenced tables -/

section Fresh

variable {cache : Cache} {source : String} {database : Option Value} {typed : String}

/-- Whether a column entry is offered again: a column whose name was not yet seen. -/
def freshTest (seen : List Value) : ColumnEntry → Bool
  | .column c => !seen.any (·.same c.name)
  | .other _ => false

/-- On columns named by texts, the freshness check of a batch returns the fresh test. -/
theorem checkFresh_eq {es : List ColumnEntry} (hcols : TextColumns es) (seen : List Value) :
    ∀ x ∈ es, (do
        let c ← x.column?
        c.name.checkKey
        Except.ok (!seen.any (·.same c.name)) : Except Misuse Bool) = .ok (freshTest seen x) := by
  intro x hx
  obtain ⟨col, rfl, hname⟩ := hcols x hx
  show (col.name.checkKey >>= fun _ => _) = _
  rw [hname.checkKey]
  rfl

/-- Every batch of the referenced tables returns, and all its items carry their priority. -/
theorem freshBatches_returns (ht : cache.TextualAt source) (hdb : ∀ d ∈ database, d.IsText) :
    ∀ (tables : List String) (seen : List Value),
      (freshBatches cache source database typed tables seen).Returns
        fun items => ∀ i ∈ items, i.RanksFor typed
  | [], _ => Except.Returns.ok fun _ h => nomatch h
  | t :: rest, seen => by
    simp only [freshBatches]
    refine (Cache.locate?_returns ht ⟨t, rfl⟩ hdb).bind fun r hr => ?_
    rcases r with _ | ⟨d, tb⟩
    · exact freshBatches_returns ht hdb rest seen
    obtain ⟨hd, htb⟩ := hr _ rfl
    refine (Cache.columns?_returns ht hd htb).bind fun cr hcr => ?_
    rcases cr with _ | _ | ⟨e, es⟩
    · exact freshBatches_returns ht hdb rest seen
    · exact freshBatches_returns ht hdb rest seen
    have hcols : TextColumns (e :: es) := hcr _ rfl
    -- the freshness test returns on every entry, so the fresh entries are a filter
    refine (Except.Returns.filterM (checkFresh_eq hcols seen)).bind fun fresh hfresh => ?_
    subst hfresh
    have hsub : TextColumns ((e :: es).filter (freshTest seen)) :=
      fun x hx => hcols x (List.mem_of_mem_filter hx)
    refine (columnItems_ranked hsub typed (some tb) none).bind fun batch hbatch => ?_
    refine (freshBatches_returns ht hdb rest _).bind fun later hlater => ?_
    refine Except.Returns.ok fun i hi => ?_
    rcases List.mem_append.mp hi with hi | hi
    · exact hbatch.carries i hi
    · exact hlater i hi

/-- The columns of the referenced tables are ranked. -/
theorem columnsFromTables_ranked (ht : cache.TextualAt source)
    (hdb : ∀ d ∈ database, d.IsText) (tables : List String) :
    (columnsFromTables cache source tables database typed).Returns (Ranked typed) :=
  (freshBatches_returns ht hdb tables []).map fun _ h => rank_ranked h

end Fresh

end SqlAssist.Completion

namespace SqlAssist.Service

open Completion Schema

/-! ## Each path of the service -/

section Paths

variable {s : Service}

theorem firstLowered_returns {wanted : String} :
    ∀ {ds : List Value}, (∀ d ∈ ds, d.IsText) →
      (firstLowered wanted ds).Returns fun r => ∀ d ∈ r, d.IsText
  | [], _ => Except.Returns.ok fun _ h => by simp at h
  | d :: ds, h => by
    have hd := h d List.mem_cons_self
    simp only [firstLowered]
    refine hd.lowered.bind fun l _ => ?_
    split
    · exact Except.Returns.ok fun x hx => Option.some.inj hx ▸ hd
    · exact firstLowered_returns fun x hx => h x (List.mem_cons_of_mem _ hx)

/-- The database a table context names is matched to a cached text, or to none. -/
theorem matchDatabase_returns (ht : s.cache.TextualAt s.source) (name : String) :
    (s.matchDatabase name).Returns fun r => ∀ d ∈ r, d.IsText := by
  unfold matchDatabase
  dsimp only
  split
  · exact Except.Returns.ok fun d hd => Option.some.inj hd ▸ ⟨name, rfl⟩
  · refine firstLowered_returns fun d hd => ?_
    cases hds : s.cache.databases? s.source with
    | none => simp [hds] at hd
    | some ds => exact Cache.databases?_text ht ds hds d (by simpa [hds] using hd)

theorem tableItemsFor_ranked (ht : s.cache.TextualAt s.source) (c : Cursor.Context) :
    (s.tableItemsFor c).Returns (Ranked c.word) := by
  unfold tableItemsFor
  split
  · -- a named database: its tables, matched exactly and else case-blind
    refine (matchDatabase_returns ht _).bind fun r hr => ?_
    rcases r with _ | d
    · exact Except.Returns.ok (ranked_nil _)
    refine (Cache.tables?_returns ht (hr d rfl)).bind fun tables htables => ?_
    refine tableItems_ranked (fun t hmem => ?_) c.word (some d)
    cases tables with
    | none => simp at hmem
    | some ts => exact htables ts rfl t hmem
  · -- no database: the tables of every database
    split
    next => exact Except.Returns.ok (ranked_nil _)
    next => exact Except.Returns.ok (ranked_nil _)
    next all _ hall =>
      exact allTableItems_ranked (fun e he => (Cache.allTables?_text ht all hall e he).2) c.word

/-- The columns of a table located as a pair of texts, offered for the context. -/
theorem locatedColumns_returns (ht : s.cache.TextualAt s.source) (c : Cursor.Context)
    {d t : Value} (hd : d.IsText) (htt : t.IsText) :
    (do
      let cols ← s.cache.columns? s.source d t
      match cols with
      | none | some [] => Except.ok []
      | some entries => columnItems entries c.word (some t) c.viaAlias :
        Except Misuse (List Item)).Returns (Ranked c.word) := by
  refine (Cache.columns?_returns ht hd htt).bind fun cols hcols => ?_
  rcases cols with _ | _ | ⟨e, es⟩
  · exact Except.Returns.ok (ranked_nil _)
  · exact Except.Returns.ok (ranked_nil _)
  · exact columnItems_ranked (hcols _ rfl) c.word (some t) c.viaAlias

theorem qualifiedColumnItems_ranked (ht : s.cache.TextualAt s.source) (c : Cursor.Context) :
    (s.qualifiedColumnItems c).Returns (Ranked c.word) := by
  unfold qualifiedColumnItems
  dsimp only
  have hdb : ∀ d ∈ c.database.map Value.str, d.IsText := by
    intro d hd
    obtain ⟨n, -, rfl⟩ := Option.map_eq_some_iff.mp hd
    exact ⟨n, rfl⟩
  refine (Cache.locate?_returns ht ⟨_, rfl⟩ hdb).bind fun first hfirst => ?_
  split
  · -- not found in the named database: look in every database
    split
    · refine (Cache.locate?_returns ht ⟨_, rfl⟩ fun _ h => by simp at h).bind
        fun located hl => ?_
      rcases located with _ | ⟨d, t⟩
      · exact Except.Returns.ok (ranked_nil _)
      · exact locatedColumns_returns ht c (hl _ rfl).1 (hl _ rfl).2
    · exact Except.Returns.ok (ranked_nil _)
  · rcases first with _ | ⟨d, t⟩
    · exact Except.Returns.ok (ranked_nil _)
    · exact locatedColumns_returns ht c (hfirst _ rfl).1 (hfirst _ rfl).2

theorem everyColumnItems_ranked (ht : s.cache.TextualAt s.source) (typed : String) :
    (s.everyColumnItems typed).Returns (Ranked typed) := by
  unfold everyColumnItems
  have htables : ∀ e ∈ (s.cache.allTables? s.source).getD [], e.1.IsText ∧ ∀ t ∈ e.2, t.IsText := by
    intro e he
    cases hall : s.cache.allTables? s.source with
    | none => simp [hall] at he
    | some all => exact Cache.allTables?_text ht all hall e (by simpa [hall] using he)
  refine (Except.Returns.mapM (P := fun b => ∀ b' ∈ b, Ranked typed b') ?_).bind
    fun batches hb => Except.Returns.ok (rank_ranked fun i hi => ?_)
  · rintro ⟨d, ts⟩ he
    obtain ⟨hd, hts⟩ := htables _ he
    refine Except.Returns.mapM fun t htm => ?_
    refine (Cache.columns?_returns ht hd (hts t htm)).bind fun cols hcols => ?_
    rcases cols with _ | _ | ⟨e, es⟩
    · exact Except.Returns.ok (ranked_nil _)
    · exact Except.Returns.ok (ranked_nil _)
    · exact columnItems_ranked (hcols _ rfl) typed (some t) none
  · obtain ⟨b, hbm, hib⟩ := List.mem_flatten.mp hi
    obtain ⟨b', hb'm, hib'⟩ := List.mem_flatten.mp hbm
    exact (hb b' hb'm b hib').carries i hib

theorem scopedColumnItems_ranked (ht : s.cache.TextualAt s.source) (c : Cursor.Context)
    (query : String) : (s.scopedColumnItems c query).Returns (Ranked c.word) := by
  unfold scopedColumnItems
  split
  · exact everyColumnItems_ranked ht c.word
  · exact columnsFromTables_ranked ht (fun _ h => by simp at h) _

end Paths

end SqlAssist.Service

namespace SqlAssist.Cursor

/-- The word the items of a context are matched against: the word typed so far, in upper
case when keywords are offered. -/
def Context.matchWord (c : Context) : String :=
  match c.expect with
  | .keyword => Text.upperString c.word
  | _ => c.word

end SqlAssist.Cursor

namespace SqlAssist.Service

open Completion Schema

variable {s : Service}

/-- Whatever the context asks for, its items are ranked for its match word. -/
theorem itemsFor_ranked (ht : s.cache.TextualAt s.source) (c : Cursor.Context)
    (query : String) : (s.itemsFor c query).Returns (Ranked c.matchWord) := by
  unfold itemsFor Cursor.Context.matchWord
  cases hc : c.expect with
  | database =>
    dsimp only
    split
    next => exact Except.Returns.ok (ranked_nil _)
    next => exact Except.Returns.ok (ranked_nil _)
    next ds _ hds => exact databaseItems_ranked (Cache.databases?_text ht ds hds) c.word
  | table => exact tableItemsFor_ranked ht c
  | column =>
    dsimp only
    split
    · exact qualifiedColumnItems_ranked ht c
    · exact scopedColumnItems_ranked ht c query
  | keyword => exact Except.Returns.ok (keywordItems_ranked s.keywords c.word)

/-- An integer bound slices: a positive one keeps that many items, a negative one drops
that many from the end, and zero keeps them all. -/
theorem limit_int {α : Type} (n : Int) (items : List α) :
    limit (.int n) items =
      .ok (if 0 < n then items.take n.toNat else items.take (items.length - n.natAbs)) := by
  by_cases hn : n = 0
  · subst hn
    simp [limit, Value.isFalsy]
  · have hfalsy : (Value.int n).isFalsy = false := by simpa [Value.isFalsy] using hn
    simp [limit, hfalsy, Value.asInt?]

/-- **Ranking survives every completion path and trimming.**  Over a cache whose snapshot
of the data source is textual, a request offers nothing while the source is not cached;
otherwise the unbounded request returns a list, and with an integer bound `n` the
request returns its first `n` items (all of them for `0`, all but the last `-n` for a
negative `n`), a list ranked for the context's match word. -/
theorem complete_ranked (s : Service) (line : String) (cursor : Int)
    (fullQuery : Option String) (offset : Option Int) (n : Int)
    (ht : s.cache.TextualAt s.source) :
    let c := (s.analyze line cursor fullQuery offset).context
    (s.cache.has s.source = false →
      ({ s with maxItems := .int n }.complete line cursor fullQuery offset).1 = .ok []) ∧
    (s.cache.has s.source = true → ∃ items result,
      ({ s with maxItems := .int 0 }.complete line cursor fullQuery offset).1 = .ok items ∧
      ({ s with maxItems := .int n }.complete line cursor fullQuery offset).1 = .ok result ∧
      Ranked c.matchWord result ∧
      (0 < n → result = items.take n.toNat) ∧ (n = 0 → result = items) ∧
      (n < 0 → result = items.take (items.length - n.natAbs))) := by
  intro c
  refine ⟨fun hnot => by simp [complete, hnot], fun hhas => ?_⟩
  obtain ⟨items, hitems, hranked⟩ :=
    itemsFor_ranked ht c ((s.analyze line cursor fullQuery offset).query.getD line)
  -- the trimmed list, as the bound slices it
  have hslice : ∀ m : Int, ({ s with maxItems := .int m }.complete line cursor fullQuery
      offset).1 = limit (.int m) items := by
    intro m
    simp only [complete, hhas]
    exact congrArg (Except.bind · (limit (.int m))) hitems
  refine ⟨items, _, (hslice 0).trans (by simpa using limit_int 0 items),
    (hslice n).trans (limit_int n items),
    ?_, fun hn => if_pos hn, fun hn => by simp [hn], fun hn => if_neg (by omega)⟩
  split
  · exact hranked.take _
  · exact hranked.take _

/-- A cache holding one textual snapshot: database `shop`, its table `users`, and the
column `id` of that table. -/
def shopCache : Cache :=
  { snapshots := [("demo", ⟨[.str "shop"], [(.str "shop", [.str "users"])],
      [((.str "shop", .str "users"), [.column ⟨.str "id", .str "int"⟩])]⟩)] }

theorem shopCache_textualAt : shopCache.TextualAt "demo" := by
  intro snap hs
  obtain rfl := Option.some.inj hs
  refine ⟨?_, ?_, ?_⟩
  · intro d hd
    obtain rfl := List.mem_singleton.mp hd
    exact ⟨_, rfl⟩
  · intro e he
    obtain rfl := List.mem_singleton.mp he
    refine ⟨⟨_, rfl⟩, fun t ht => ?_⟩
    obtain rfl := List.mem_singleton.mp ht
    exact ⟨_, rfl⟩
  · intro e he c hc
    obtain rfl := List.mem_singleton.mp he
    obtain rfl := List.mem_singleton.mp hc
    exact ⟨_, rfl, _, rfl⟩

theorem complete_ranked_shop :
    shopCache.TextualAt "demo" ∧
      let s : Service := { cache := shopCache, source := "demo" }
      let c := (s.analyze "SELECT * FROM us" 16 none none).context
      (s.cache.has s.source = false →
        ({ s with maxItems := .int 1 }.complete "SELECT * FROM us" 16 none none).1 = .ok []) ∧
      (s.cache.has s.source = true → ∃ items result,
        ({ s with maxItems := .int 0 }.complete "SELECT * FROM us" 16 none none).1 =
          .ok items ∧
        ({ s with maxItems := .int 1 }.complete "SELECT * FROM us" 16 none none).1 =
          .ok result ∧
        Ranked c.matchWord result ∧
        (0 < (1 : Int) → result = items.take (1 : Int).toNat) ∧ ((1 : Int) = 0 → result = items) ∧
        ((1 : Int) < 0 → result = items.take (items.length - (1 : Int).natAbs))) :=
  ⟨shopCache_textualAt,
    complete_ranked { cache := shopCache, source := "demo" } "SELECT * FROM us" 16 none none 1
      shopCache_textualAt⟩

/-- A cache whose only database is named by a number. -/
def numberedCache : Cache := { snapshots := [("demo", ⟨[.int 1], [], []⟩)] }

/-- Over a snapshot that names a database by a number, a request for databases returns no
list: matching the name lowercases it, and a number has no lowercase. -/
theorem complete_number_named_database :
    ({ cache := numberedCache, source := "demo" } : Service).cache.has "demo" = true ∧
      (({ cache := numberedCache, source := "demo" } : Service).complete "USE " 4 none
        none).1 = .error (.noAttribute "int" "lower") := by
  constructor
  · rfl
  · cbv

end SqlAssist.Service
