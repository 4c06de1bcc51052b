import Mathlib
import SqlAssist.Schema.Source
import SqlAssist.Proofs.Schema.Updates

/-!
# What a source answers

A schema load may ask its source the same question more than once (a database listed
twice is fetched twice), and its tasks ask in an order that depends on the schedule.  Two
facts make the result independent of both:

* **Asking changes no reply** (`Source.SameReplies`).  A catalog or scripted source only
  records the key it was asked; a PostgreSQL source may open its connection pool, but a
  fetch succeeds on an open pool exactly when it could have opened one.  So after any
  question, every question is answered as before.
* **No list of names is longer than the width** (`Source.width`).  Every list of names a
  source answers is an entry of its catalog, script or server, and the width adds up the
  lengths of all of them.  The turn budget of a run counts on this bound, since a loader or a
  database task starts one task per name in its answer.
-/

/-! ## The connection of a PostgreSQL source -/

namespace SqlAssist.Postgres.Adapter

open Schema

/-- Whether a fetch gets through to the server: the pool is open, or it can be opened. -/
def reachable (a : Adapter) : Bool := a.poolOpen || a.server.connectError.isNone

/-- Running a query keeps the server, the settings and whether the server is reachable. -/
theorem query_fst (a : Adapter) (key : FetchKey) :
    (a.query key).1.server = a.server ∧ (a.query key).1.settings = a.settings ∧
      (a.query key).1.reachable = a.reachable := by
  unfold query ensurePool reachable
  by_cases hp : a.poolOpen
  · simp only [hp, if_true]
    split <;> simp
  · simp only [hp, Bool.false_eq_true, if_false]
    cases hc : a.server.connectError
    · simp only
      split <;> simp
    · simp [hc]

/-- A query fails or succeeds according to the server and whether it is reachable. -/
theorem query_snd_eq {a b : Adapter} (hs : a.server = b.server)
    (hn : a.settings.name = b.settings.name) (hr : a.reachable = b.reachable) (key : FetchKey) :
    (a.query key).2 = (b.query key).2 := by
  unfold query ensurePool
  unfold reachable at hr
  rw [hs]
  -- the pool's state decides whether the failure list is consulted at all
  by_cases ha : a.poolOpen <;> by_cases hb : b.poolOpen <;> cases hc : b.server.connectError <;>
    simp_all <;> split <;> simp_all

theorem fetchNames_snd_eq {a b : Adapter} (hs : a.server = b.server)
    (hn : a.settings.name = b.settings.name) (hr : a.reachable = b.reachable) (d : Option Value) :
    (a.fetchNames d).2 = (b.fetchNames d).2 := by
  have hq := query_snd_eq hs hn hr (.ofNames d)
  obtain ⟨ha, han, -⟩ := query_fst a (.ofNames d)
  obtain ⟨hb, hbn, -⟩ := query_fst b (.ofNames d)
  simp only [fetchNames, hq, ha, hb, han, hbn, hs, hn]

theorem fetchColumns_snd_eq {a b : Adapter} (hs : a.server = b.server)
    (hn : a.settings.name = b.settings.name) (hr : a.reachable = b.reachable) (d t : Value) :
    (a.fetchColumns d t).2 = (b.fetchColumns d t).2 := by
  have hq := query_snd_eq hs hn hr (.columns d t)
  obtain ⟨ha, -, -⟩ := query_fst a (.columns d t)
  obtain ⟨hb, -, -⟩ := query_fst b (.columns d t)
  simp only [fetchColumns, hq, ha, hb, hs]

end SqlAssist.Postgres.Adapter

namespace SqlAssist.Schema

/-- Two sources that give the same reply to every question, and have the same width. -/
structure Source.SameReplies (s s' : Source) : Prop where
  names : ∀ d, (s'.askNames d).2 = (s.askNames d).2
  columns : ∀ d t, (s'.askColumns d t).2 = (s.askColumns d t).2
  width : s'.width = s.width

namespace Source.SameReplies

theorem refl (s : Source) : s.SameReplies s := ⟨fun _ => rfl, fun _ _ => rfl, rfl⟩

theorem trans {s s' s'' : Source} (h : s.SameReplies s') (h' : s'.SameReplies s'') :
    s.SameReplies s'' :=
  ⟨fun d => (h'.names d).trans (h.names d), fun d t => (h'.columns d t).trans (h.columns d t),
    h'.width.trans h.width⟩

end Source.SameReplies

/-- Two lists of sources name the same sources, each answering as the other does. -/
def SourcesAgree (ss ss' : List (String × Source)) : Prop :=
  ∀ src, Option.Rel Source.SameReplies (ss.lookup src) (ss'.lookup src)

namespace SourcesAgree

theorem refl (ss : List (String × Source)) : SourcesAgree ss ss := by
  intro src
  cases ss.lookup src with
  | none => exact .none
  | some s => exact .some (.refl s)

theorem trans {ss ss' ss'' : List (String × Source)} (h : SourcesAgree ss ss')
    (h' : SourcesAgree ss' ss'') : SourcesAgree ss ss'' := by
  intro src
  have h1 := h src
  have h2 := h' src
  generalize ss.lookup src = a at h1 ⊢
  generalize ss'.lookup src = b at h1 h2
  generalize ss''.lookup src = c at h2 ⊢
  cases h1 with
  | none => cases h2; exact .none
  | some hs => cases h2 with
    | some hs' => exact .some (hs.trans hs')

/-- A name that one of two agreeing lists lacks the other lacks too; a source one has the
other has, answering the same way. -/
theorem lookup_cases {ss ss' : List (String × Source)} (h : SourcesAgree ss ss') (src : String) :
    (ss.lookup src = none ∧ ss'.lookup src = none) ∨
      ∃ s₀ s, ss.lookup src = some s₀ ∧ ss'.lookup src = some s ∧ s₀.SameReplies s := by
  have hsrc := h src
  generalize ss.lookup src = a at hsrc ⊢
  generalize ss'.lookup src = b at hsrc ⊢
  cases hsrc with
  | none => exact .inl ⟨rfl, rfl⟩
  | some h0 => exact .inr ⟨_, _, rfl, rfl, h0⟩

/-- A source answered in place of one that answers the same way keeps the agreement. -/
theorem setEntry {ss ss' : List (String × Source)} (h : SourcesAgree ss ss') {src : String}
    {s s' : Source} (hs : ss'.lookup src = some s) (hsame : s.SameReplies s') :
    SourcesAgree ss (setEntry ss' src s') := by
  intro src'
  rw [lookup_setEntry]
  split
  · rename_i heq
    subst heq
    have h1 := h src'
    rw [hs] at h1
    generalize ss.lookup src' = a at h1 ⊢
    cases h1 with
    | some h0 => exact .some (h0.trans hsame)
  · exact h src'

end SourcesAgree


/-! ## Asking changes no reply -/

namespace Source

/-- A PostgreSQL source answers every question as before once a query has run. -/
theorem sameReplies_postgres (a : Postgres.Adapter) (key : FetchKey) :
    (Source.postgres a).SameReplies (.postgres (a.query key).1) := by
  obtain ⟨hs, hset, hr⟩ := Postgres.Adapter.query_fst a key
  have hn : (a.query key).1.settings.name = a.settings.name := by rw [hset]
  refine ⟨fun d => ?_, fun d t => ?_, ?_⟩
  · simp only [askNames, ask]
    rw [Postgres.Adapter.fetchNames_snd_eq hs hn hr]
  · simp only [askColumns, ask]
    rw [Postgres.Adapter.fetchColumns_snd_eq hs hn hr]
  · simp [width, hs]

theorem sameReplies_askNames (s : Source) (d : Option Value) :
    s.SameReplies (s.askNames d).1 := by
  cases s with
  | catalog c failures ks => exact ⟨fun _ => rfl, fun _ _ => rfl, rfl⟩
  | scripted script ks => exact ⟨fun _ => rfl, fun _ _ => rfl, rfl⟩
  | postgres a => exact sameReplies_postgres a (.ofNames d)

theorem sameReplies_askColumns (s : Source) (d t : Value) :
    s.SameReplies (s.askColumns d t).1 := by
  cases s with
  | catalog c failures ks => exact ⟨fun _ => rfl, fun _ _ => rfl, rfl⟩
  | scripted script ks => exact ⟨fun _ => rfl, fun _ _ => rfl, rfl⟩
  | postgres a => exact sameReplies_postgres a (.columns d t)

end Source

/-! ## No list of names is longer than the width -/

section Width

/-- The list a key looks up counts towards the lengths of all the listed lists. -/
theorem length_le_of_lookup {α : Type} {l : List (String × List α)} {k : String} {v : List α}
    (h : l.lookup k = some v) : v.length ≤ (l.map (·.2.length)).sum := by
  obtain ⟨l₁, l₂, rfl, -⟩ := List.lookup_eq_some_iff.1 h
  simp only [List.map_append, List.map_cons, List.sum_append, List.sum_cons]
  omega

theorem length_le_of_find? {α : Type} {l : List (String × List α)} {p : String × List α → Bool}
    {e : String × List α} (h : l.find? p = some e) (g : String × List α → Nat) :
    e.2.length ≤ (l.map fun e => e.2.length + g e).sum :=
  le_trans (Nat.le_add_right _ _)
    (List.le_sum_of_mem (List.mem_map_of_mem (List.mem_of_find?_eq_some h)))

/-- The rows a server holds for the tables of a schema count towards its width. -/
theorem tablesOf_length_le {s : Postgres.Server} {d : Value} {rows : List Value}
    (h : s.tablesOf d = .ok rows) : rows.length ≤ (s.tables.map (·.2.length)).sum := by
  cases d with
  | str n =>
    simp only [Postgres.Server.tablesOf, Except.ok.injEq] at h
    subst h
    cases hl : s.tables.lookup n with
    | none => simp
    | some v => simpa using length_le_of_lookup hl
  | list vs => simp [Postgres.Server.tablesOf, Value.checkKey, bind, Except.bind] at h
  | obj fs => simp [Postgres.Server.tablesOf, Value.checkKey, bind, Except.bind] at h
  | _ =>
    simp only [Postgres.Server.tablesOf, Value.checkKey, bind, Except.bind, Except.ok.injEq] at h
    simp [← h]

/-- The names a catalog gives are never more than its width counts. -/
theorem catalogNames_length_le {c : Catalog} {d : Option Value} {xs : List Value}
    (h : catalogNames c d = .ok xs) :
    xs.length ≤ c.length + (c.map fun e => e.2.length + (e.2.map (·.2.length)).sum).sum := by
  cases d with
  | none =>
    simp only [catalogNames, Except.ok.injEq] at h
    subst h
    simp
  | some d =>
    simp only [catalogNames, catalogLookup, bind, Except.bind] at h
    cases hk : d.checkKey with
    | error m => simp [hk] at h
    | ok u =>
      simp only [hk, Except.ok.injEq] at h
      subst h
      cases hf : c.find? (fun e => Value.same (.str e.1) d) with
      | none => simp
      | some e =>
        simp only [Option.map_some, Option.getD_some, List.length_map]
        exact le_trans (length_le_of_find? hf _) (Nat.le_add_left _ _)

/-- The items of the value a script returns for a key count towards the script's width. -/
theorem scripted_length_le {script : List (String × Behaviour)} {k : String} {v : Value}
    (h : script.lookup k = some (.returns v)) :
    (v.items.toOption.getD []).length ≤
      (script.map fun e => match e.2 with
        | .returns v => (v.items.toOption.getD []).length
        | _ => 0).sum := by
  obtain ⟨l₁, l₂, rfl, -⟩ := List.lookup_eq_some_iff.1 h
  simp only [List.map_append, List.map_cons, List.sum_append, List.sum_cons]
  omega

end Width

namespace Source

theorem length_le_width_of_askNames {s : Source} {d : Option Value} {xs : List Value}
    (h : (s.askNames d).2.outcome = .ok xs) : xs.length ≤ s.width := by
  cases s with
  | catalog c failures ks =>
    simp only [askNames, ask] at h
    split at h
    · simp at h
    · cases hn : catalogNames c d with
      | error m => simp [hn, Except.mapError] at h
      | ok ys =>
        simp only [hn, Except.mapError, Except.ok.injEq] at h
        subst h
        exact catalogNames_length_le hn
  | scripted script ks =>
    simp only [askNames, ask] at h
    split at h
    · rename_i v hv
      cases hi : v.items with
      | error m => simp [hi, Except.mapError] at h
      | ok ys =>
        simp only [hi, Except.mapError, Except.ok.injEq] at h
        subst h
        calc ys.length = (v.items.toOption.getD []).length := by simp [hi, Except.toOption]
          _ ≤ _ := scripted_length_le hv
    · simp at h
    · simp at h
    · simp only [Value.items, Except.mapError, Except.ok.injEq] at h
      simp [← h]
  | postgres a =>
    simp only [askNames, ask, Postgres.Adapter.fetchNames] at h
    cases hq : (a.query (.ofNames d)).2 with
    | error e => simp [hq, Except.bind] at h
    | ok u =>
      obtain ⟨hs, -, -⟩ := Postgres.Adapter.query_fst a (.ofNames d)
      simp only [hq, Except.bind, hs] at h
      cases d with
      | none =>
        simp only [Except.ok.injEq] at h
        subst h
        simp only [List.length_map, width]
        omega
      | some d =>
        cases ht : a.server.tablesOf d with
        | error m => simp [ht] at h
        | ok rows =>
          simp only [ht, Except.ok.injEq] at h
          subst h
          have := tablesOf_length_le ht
          simp only [List.length_map, width]
          omega

end Source

end SqlAssist.Schema
