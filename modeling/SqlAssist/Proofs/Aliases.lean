import Mathlib.Data.List.Basic
import SqlAssist.Alias.Binding

/-!
# Which alias bindings a text keeps

`Alias.bindings` searches the four binding shapes one after another and keys what it finds
by lowercase alias and table, dropping a key it has seen.  This file says what that loop
computes, without the loop:

* `candidates`: what the shapes find and accept, shape by shape, each shape's matches in
  text order;
* `firstOfKeys`: the first candidate of each key, in order.

## Main statements

* `bindings_eq_firstOfKeys`: **the bindings of a text are the first candidate of each key,
  shapes taken in their search order, then ordered by where they start.**  The first
  binding of a key in the text is not always the one kept: a `FROM` binding of a key
  hides an earlier `JOIN` binding of it.
* `exists_key_bindings_iff`: a key is bound exactly when some shape's scan yields an
  accepted match of it.

`from_hides_earlier_join` is a text where the bindings differ from "the first occurrence of
each key wins".
-/

namespace SqlAssist.Alias

/-- The key a binding is kept once under: its alias and its table. -/
def Binding.key (b : Binding) : String × String := (b.aliasName, b.table)

/-- The binding a match of a shape makes, unless its juxtaposed alias is a clause
keyword. -/
def accept (viaAs : Bool) (m : Nat × String × String) : Option (Nat × Binding) :=
  if !viaAs && isClauseKeyword m.2.2 then none else some (m.1, Binding.ofMatch m.2.1 m.2.2)

/-- The bindings the shapes find and accept: shape by shape, each shape's matches in text
order. -/
def candidates (cs : List Char) (ss : List (Opener × Bool)) : List (Nat × Binding) :=
  ss.flatMap fun s => (shapeMatches s.1 s.2 cs).filterMap (accept s.2)

/-- The first candidate of each key, in order. -/
def firstOfKeys (cs : List (Nat × Binding)) : List (Nat × Binding) :=
  cs.eraseDupsBy fun a b => a.2.key == b.2.key

theorem firstOfKeys_cons (c : Nat × Binding) (cs : List (Nat × Binding)) :
    firstOfKeys (c :: cs) = c :: firstOfKeys (cs.filter (·.2.key ≠ c.2.key)) := by
  simp [firstOfKeys, List.eraseDupsBy_cons]

/-- Keep a candidate unless its key was seen. -/
def keep (st : List (String × String) × List (Nat × Binding)) (c : Nat × Binding) :
    List (String × String) × List (Nat × Binding) :=
  if st.1.contains c.2.key then st else (c.2.key :: st.1, st.2 ++ [c])

/-! ## The loop, without the loop -/

/-- A fold whose turn accepts a match and keeps the binding it makes is the fold of `keep`
over the accepted bindings. -/
theorem foldl_accept_keep {viaAs : Bool}
    {F : List (String × String) × List (Nat × Binding) → Nat × String × String →
      List (String × String) × List (Nat × Binding)}
    (hF : ∀ st m, F st m = (accept viaAs m).elim st (keep st))
    (ms : List (Nat × String × String)) (st : List (String × String) × List (Nat × Binding)) :
    ms.foldl F st = (ms.filterMap (accept viaAs)).foldl keep st := by
  rw [List.foldl_filterMap]
  refine List.foldl_ext _ _ _ fun st m _ => ?_
  rw [hF]
  cases accept viaAs m <;> rfl

/-- **`collect` keeps the candidates of the remaining shapes one by one.** -/
theorem collect_eq (cs : List Char) (ss : List (Opener × Bool)) (seen : List (String × String))
    (acc : List (Nat × Binding)) :
    collect cs ss seen acc = ((candidates cs ss).foldl keep (seen, acc)).2 := by
  induction ss generalizing seen acc with
  | nil => rfl
  | cons s ss ih =>
    obtain ⟨o, viaAs⟩ := s
    rw [collect, @foldl_accept_keep viaAs]
    · simp only [candidates, List.flatMap_cons, List.foldl_append]
      generalize ((shapeMatches o viaAs cs).filterMap (accept viaAs)).foldl keep (seen, acc) = st
      obtain ⟨seen', acc'⟩ := st
      exact ih seen' acc'
    · -- the turn of `collect` is `keep` after `accept`
      rintro st ⟨pos, reference, aliasName⟩
      by_cases hr : (!viaAs && isClauseKeyword aliasName) = true
      · simp [accept, hr]
      · simp [accept, keep, hr, Binding.key]

/-- **Keeping candidates one by one keeps the first of each key not seen before.** -/
theorem foldl_keep (xs : List (Nat × Binding)) (seen : List (String × String))
    (acc : List (Nat × Binding)) :
    (xs.foldl keep (seen, acc)).2 = acc ++ firstOfKeys (xs.filter fun c => !seen.contains c.2.key) := by
  induction xs generalizing seen acc with
  | nil => simp [firstOfKeys]
  | cons x xs ih =>
    by_cases hx : seen.contains x.2.key = true
    · -- seen: the candidate is dropped
      rw [List.foldl_cons, keep, if_pos hx, ih, List.filter_cons_of_neg (by simpa using hx)]
    · -- new: the candidate is kept, and its key is seen from then on
      rw [List.foldl_cons, keep, if_neg hx, ih, List.filter_cons_of_pos (by simpa using hx),
        firstOfKeys_cons, List.filter_filter]
      simp only [List.append_assoc, List.singleton_append]
      congr 3
      refine List.filter_congr fun c _ => ?_
      by_cases hc : c.2.key = x.2.key <;> simp [hc]

/-- **The bindings of a text are the first candidate of each key, the shapes taken in their
search order, ordered by where they start.** -/
theorem bindings_eq_firstOfKeys (text : String) :
    bindings text =
      ((firstOfKeys (candidates text.toList shapes)).mergeSort fun a b => a.1 ≤ b.1).map Prod.snd := by
  rw [bindings, collect_eq, foldl_keep]
  simp only [List.contains_nil, Bool.not_false, List.filter_true, List.nil_append]

/-- A `FROM` binding of a key hides an earlier `JOIN` binding of it, and so decides what the
alias resolves to: the `JOIN` shapes are searched last. -/
theorem from_hides_earlier_join :
    bindings "JOIN a.t c FROM b.t c" = [⟨"t", "c", some "b"⟩] ∧
      find? "c" (bindings "JOIN a.t c FROM b.t c") = some ("t", some "b") := by
  decide +kernel

/-! ## The keys that are bound -/

theorem mem_candidates {cs : List Char} {ss : List (Opener × Bool)} {c : Nat × Binding} :
    c ∈ candidates cs ss ↔ ∃ s ∈ ss, ∃ m ∈ shapeMatches s.1 s.2 cs, accept s.2 m = some c := by
  simp [candidates]

/-- Keeping the first of each key keeps every key. -/
theorem exists_key_firstOfKeys : ∀ (xs : List (Nat × Binding)) (k : String × String),
    (∃ c ∈ firstOfKeys xs, c.2.key = k) ↔ ∃ c ∈ xs, c.2.key = k
  | [], _ => by simp [firstOfKeys]
  | x :: xs, k => by
    have ih := exists_key_firstOfKeys (xs.filter (·.2.key ≠ x.2.key)) k
    rw [firstOfKeys_cons]
    simp only [List.mem_cons, exists_eq_or_imp, ih, List.mem_filter]
    by_cases hk : x.2.key = k
    · simp [hk]
    · simp only [hk, false_or]
      constructor
      · rintro ⟨c, ⟨hc, -⟩, hck⟩
        exact ⟨c, hc, hck⟩
      · rintro ⟨c, hc, hck⟩
        exact ⟨c, ⟨hc, by simp [hck, Ne.symm hk]⟩, hck⟩
termination_by xs => xs.length
decreasing_by exact Nat.lt_add_one_of_le (List.length_filter_le _ _)

/-- A key is bound exactly when some shape's scan yields an accepted match of it. -/
theorem exists_key_bindings_iff (text : String) (k : String × String) :
    (∃ b ∈ bindings text, b.key = k) ↔
      ∃ s ∈ shapes, ∃ m ∈ shapeMatches s.1 s.2 text.toList, ∃ c, accept s.2 m = some c ∧ c.2.key = k := by
  rw [bindings_eq_firstOfKeys]
  simp only [List.mem_map, List.mem_mergeSort, exists_exists_and_eq_and, exists_key_firstOfKeys,
    mem_candidates]
  constructor
  · rintro ⟨c, ⟨s, hs, m, hm, hacc⟩, hk⟩
    exact ⟨s, hs, m, hm, c, hacc, hk⟩
  · rintro ⟨s, hs, m, hm, c, hacc, hk⟩
    exact ⟨c, ⟨s, hs, m, hm, hacc⟩, hk⟩

end SqlAssist.Alias
