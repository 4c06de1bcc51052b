import SqlAssist.Completion.Item

/-!
# Building a batch by sorting

`build` collects each matching candidate with its priority and its position among the
candidates, sorts the collection by the pair and keeps the items.  The pair is a key with no
ties inside one collection, since the positions differ, so there is exactly one sorted
arrangement of it, and the collection split by priority is one: the candidates at priority
`0` in candidate order, then those at priority `1` in candidate order.  Hence a batch is
`itemsAt` at priority `0` followed by `itemsAt` at priority `1` (`build_eq_passes`), the
form the ranking results work with.

## Main statements

* `priority_le_one`: a matching candidate has priority `0` or `1`.
* `filter_decorate`: the collected candidates at one priority are that priority's items.
* `mergeSort_decorate`: the sorted collection is the collection split by priority.
* `build_eq_passes`: a batch is the prefix matches and then the other matches.
-/

namespace SqlAssist.Completion

/-- A matching candidate has priority `0` or `1`. -/
theorem priority_le_one {name typed : String} {p : Nat} (h : priority name typed = some p) :
    p ≤ 1 := by
  simp only [priority] at h
  split at h
  · cases h; decide
  · split at h
    · cases h; decide
    · cases h

/-! ## The sort key -/

theorem Decorated.keyLe_iff {a b : Decorated} :
    a.keyLe b = true ↔ a.priority < b.priority ∨ a.priority = b.priority ∧ a.index ≤ b.index := by
  simp [Decorated.keyLe]

theorem Decorated.keyLe_trans (a b c : Decorated) (hab : a.keyLe b = true)
    (hbc : b.keyLe c = true) : a.keyLe c = true := by
  rw [Decorated.keyLe_iff] at hab hbc ⊢
  omega

theorem Decorated.keyLe_total (a b : Decorated) : (a.keyLe b || b.keyLe a) = true := by
  rw [Bool.or_eq_true, Decorated.keyLe_iff, Decorated.keyLe_iff]
  omega

section Collection

variable {kind : Kind} {detail : String → Value} {documentation : String → String}
  {typed : String}

/-! ## The collection -/

/-- A collected candidate stands at or after the first position. -/
theorem le_index_of_mem_decorate {e : Decorated} :
    ∀ {index : Nat} {names : List String},
      e ∈ decorate kind detail documentation typed index names → index ≤ e.index
  | _, [], h => by cases h
  | index, name :: rest, h => by
    rw [decorate] at h
    split at h
    · rcases List.mem_cons.mp h with rfl | h
      · exact Nat.le_refl _
      · exact Nat.le_of_succ_le (le_index_of_mem_decorate h)
    · exact Nat.le_of_succ_le (le_index_of_mem_decorate h)

/-- The collection lists its candidates at increasing positions. -/
theorem decorate_index_lt :
    ∀ (index : Nat) (names : List String),
      (decorate kind detail documentation typed index names).Pairwise (·.index < ·.index)
  | _, [] => List.Pairwise.nil
  | index, name :: rest => by
    rw [decorate]
    split
    · exact List.Pairwise.cons (fun _ he => le_index_of_mem_decorate he)
        (decorate_index_lt (index + 1) rest)
    · exact decorate_index_lt (index + 1) rest

/-- A collected candidate has a matching candidate's priority. -/
theorem priority_le_one_of_mem_decorate {e : Decorated} :
    ∀ {index : Nat} {names : List String},
      e ∈ decorate kind detail documentation typed index names → e.priority ≤ 1
  | _, [], h => by cases h
  | index, name :: rest, h => by
    rw [decorate] at h
    split at h
    · rcases List.mem_cons.mp h with rfl | h
      · exact priority_le_one ‹_›
      · exact priority_le_one_of_mem_decorate h
    · exact priority_le_one_of_mem_decorate h

theorem itemsAt_cons (p : Nat) (name : String) (rest : List String) :
    itemsAt kind detail documentation typed p (name :: rest) =
      (if priority name typed = some p then [makeItem kind detail documentation name p] else []) ++
        itemsAt kind detail documentation typed p rest := by
  by_cases h : priority name typed = some p <;> simp [itemsAt, h]

/-- **The collected candidates at one priority are that priority's items**, in candidate
order. -/
theorem filter_decorate (p : Nat) :
    ∀ (index : Nat) (names : List String),
      ((decorate kind detail documentation typed index names).filter (·.priority == p)).map
        (·.item) = itemsAt kind detail documentation typed p names
  | _, [] => rfl
  | index, name :: rest => by
    rw [decorate, itemsAt_cons, ← filter_decorate p (index + 1) rest]
    split
    · next q hq =>
      by_cases hqp : q = p
      · subst hqp
        simp [hq]
      · simp [hq, hqp]
    · next hq =>
      simp [hq]

/-- Collected candidates at one position are one. -/
theorem eq_of_index_eq {es : List Decorated} (hes : es.Pairwise (·.index < ·.index))
    {a b : Decorated} (ha : a ∈ es) (hb : b ∈ es) (hab : a.index = b.index) : a = b := by
  induction hes with
  | nil => cases ha
  | @cons x xs hx _ ih =>
    rw [List.mem_cons] at ha hb
    rcases ha with rfl | ha <;> rcases hb with rfl | hb
    · rfl
    · exact absurd hab (Nat.ne_of_lt (hx b hb))
    · exact absurd hab.symm (Nat.ne_of_lt (hx a ha))
    · exact ih ha hb

/-! ## The sorted collection -/

/-- The collection split by priority, each part in collection order. -/
abbrev byPriority (es : List Decorated) : List Decorated :=
  es.filter (·.priority == 0) ++ es.filter (·.priority == 1)

/-- Splitting a collection of priorities `0` and `1` rearranges it. -/
theorem byPriority_perm {es : List Decorated} (hes : ∀ e ∈ es, e.priority ≤ 1) :
    (byPriority es).Perm es := by
  have hone : es.filter (·.priority == 1) = es.filter fun e => !(e.priority == 0) :=
    List.filter_congr fun e he => by
      obtain h | h : e.priority = 0 ∨ e.priority = 1 := by have := hes e he; omega
      all_goals simp [h]
  rw [byPriority, hone]
  exact List.filter_append_perm _ es

/-- A collection at increasing positions, split by priority, is sorted by the key. -/
theorem byPriority_sorted {es : List Decorated} (hes : es.Pairwise (·.index < ·.index)) :
    (byPriority es).Pairwise fun a b => a.keyLe b = true := by
  -- within one part the positions increase; across the parts the priority does
  have hpart : ∀ p, (es.filter (·.priority == p)).Pairwise fun a b => a.keyLe b = true :=
    fun p => (hes.sublist List.filter_sublist).imp_of_mem fun ha hb hlt => by
      simp only [List.mem_filter, beq_iff_eq] at ha hb
      exact Decorated.keyLe_iff.mpr (.inr ⟨ha.2.trans hb.2.symm, Nat.le_of_lt hlt⟩)
  refine List.pairwise_append.mpr ⟨hpart 0, hpart 1, fun a ha b hb => ?_⟩
  simp only [List.mem_filter, beq_iff_eq] at ha hb
  exact Decorated.keyLe_iff.mpr (.inl (by omega))

/-- **The sorted collection is the collection split by priority.**  Both are sorted
arrangements of the collection, and the key has no ties within it. -/
theorem mergeSort_decorate (names : List String) :
    (decorate kind detail documentation typed 0 names).mergeSort Decorated.keyLe =
      byPriority (decorate kind detail documentation typed 0 names) := by
  let es := decorate kind detail documentation typed 0 names
  have hlt : es.Pairwise (·.index < ·.index) := decorate_index_lt 0 names
  have hsplit : (byPriority es).Perm es :=
    byPriority_perm fun _ he => priority_le_one_of_mem_decorate he
  refine List.Perm.eq_of_pairwise (fun a b ha hb hab hba => ?_)
    (List.pairwise_mergeSort Decorated.keyLe_trans Decorated.keyLe_total es)
    (byPriority_sorted hlt) ((List.mergeSort_perm es _).trans hsplit.symm)
  -- two members that each precede the other share a position, so they are one
  have hindex : a.index = b.index := by
    rw [Decorated.keyLe_iff] at hab hba
    omega
  exact eq_of_index_eq hlt ((List.mergeSort_perm es _).subset ha) (hsplit.subset hb) hindex

end Collection

/-- **A batch is the prefix matches and then the other matches**, each in candidate order. -/
theorem build_eq_passes (kind : Kind) (names : List String) (typed : String)
    (detail : String → Value) (documentation : String → String) :
    build kind names typed detail documentation =
      itemsAt kind detail documentation typed 0 names ++
        itemsAt kind detail documentation typed 1 names := by
  rw [build, mergeSort_decorate, byPriority, List.map_append, filter_decorate, filter_decorate]

end SqlAssist.Completion
