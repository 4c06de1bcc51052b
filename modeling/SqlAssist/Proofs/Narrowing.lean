import SqlAssist.Completion.Item
import Mathlib.Data.List.Infix

/-!
# Typing more narrows the candidates

A candidate name matches the typed word when the lowercase word occurs in the lowercase
name (`priority` is then `0` or `1`), and it is a prefix match (`0`) when the lowercase word
starts the lowercase name.  Typing more should only ever lose candidates: whatever matches
a longer word matches every word inside it, and whatever the longer word starts, its
beginning starts too.

Lowercasing goes character by character except at a capital sigma `Σ`, whose lowercase
depends on its neighbours: a `Σ` that ends a word lowercases to the final form `ς`, any
other to `σ`.  So the lowercase of a text without `Σ` reappears unchanged inside the
lowercase of every text around it (`Text.lower_isInfix_lower`), and the law holds for
every typed word without `Σ`, whatever the name and whatever is typed around the word
(`priority_narrowing`).  A typed word with a `Σ` at its end breaks it: `AΣ` lowercases to
`aς`, while the name `AΣB` lowercases to `aσb`, so that name does not match the word it
starts with (`priority_sigma_prefix_lost`).

## Main statements

* `occursIn_iff_isInfix`: the occurrence test is `List.IsInfix`.
* `priority_eq_zero_iff`, `priority_ne_none_iff`: priorities as prefix and infix facts about
  the lowercases.
* `priority_narrowing`: for a typed word without `Σ`, a candidate of a longer word is a
  candidate of the word, a prefix match stays one, and every name that starts with the
  word, or contains it, matches it.
* `priority_sigma_prefix_lost`: a name that starts with a word ending in `Σ` may not match it.
-/

namespace SqlAssist

namespace Text

/-! ## Lowercasing around a text -/

/-- A text without a capital sigma lowercases character by character, whatever precedes and
follows it. -/
theorem lowerFrom_append_of_sigma_free {p : List Char} (hp : 'Σ' ∉ p) (before r : List Char) :
    lowerFrom before (p ++ r) = p.flatMap lowerChar ++ lowerFrom (p.reverse ++ before) r := by
  induction p generalizing before with
  | nil => rfl
  | cons c p ih =>
    have hc : c ≠ 'Σ' := fun h => hp (h ▸ List.mem_cons_self)
    rw [List.cons_append, lowerFrom, if_neg hc, ih (fun h => hp (List.mem_cons_of_mem c h)),
      List.flatMap_cons, List.append_assoc, List.reverse_cons, List.append_assoc,
      List.singleton_append]

/-- Lowercasing the tail of a text, with its head as what precedes it, gives an end of the
lowercase of the whole text. -/
theorem lowerFrom_isSuffix_append (before q s : List Char) :
    lowerFrom (q.reverse ++ before) s <:+ lowerFrom before (q ++ s) := by
  induction q generalizing before with
  | nil => exact List.suffix_refl _
  | cons c q ih =>
    rw [List.reverse_cons, List.append_assoc, List.singleton_append, List.cons_append, lowerFrom]
    exact (ih (c :: before)).trans (List.suffix_append _ _)

/-- A text without a capital sigma lowercases character by character. -/
theorem lower_of_sigma_free {p : List Char} (hp : 'Σ' ∉ p) : lower p = p.flatMap lowerChar := by
  have h := lowerFrom_append_of_sigma_free hp [] []
  rw [List.append_nil, lowerFrom, List.append_nil] at h
  exact h

/-- The lowercase of a text without a capital sigma starts the lowercase of every text that
starts with it. -/
theorem lower_isPrefix_lower {p : List Char} (hp : 'Σ' ∉ p) (r : List Char) :
    lower p <+: lower (p ++ r) := by
  rw [lower_of_sigma_free hp, lower, lowerFrom_append_of_sigma_free hp]
  exact List.prefix_append _ _

/-- The lowercase of a text without a capital sigma occurs in the lowercase of every text
that contains it. -/
theorem lower_isInfix_lower {p : List Char} (hp : 'Σ' ∉ p) (q r : List Char) :
    lower p <:+: lower (q ++ p ++ r) := by
  have htail : lowerFrom q.reverse (p ++ r) <:+ lower (q ++ (p ++ r)) := by
    have h := lowerFrom_isSuffix_append [] q (p ++ r)
    rw [List.append_nil] at h
    exact h
  have hhead : lower p <+: lowerFrom q.reverse (p ++ r) := by
    rw [lower_of_sigma_free hp, lowerFrom_append_of_sigma_free hp]
    exact List.prefix_append _ _
  rw [List.append_assoc]
  exact hhead.isInfix.trans htail.isInfix

end Text

namespace Completion

/-! ## Priorities as facts about the lowercases -/

/-- The occurrence test of the matcher finds exactly the contiguous runs. -/
theorem occursIn_iff_isInfix (needle : List Char) :
    ∀ hay : List Char, occursIn needle hay = true ↔ needle <:+: hay
  | [] => by simp [occursIn, List.infix_nil]
  | c :: rest => by
    rw [occursIn, Bool.or_eq_true, List.isPrefixOf_iff_prefix, occursIn_iff_isInfix needle rest,
      List.infix_cons_iff]

/-- A name is a prefix match for the typed word exactly when the lowercase word starts the
lowercase name. -/
theorem priority_eq_zero_iff (name typed : String) :
    priority name typed = some 0 ↔ Text.lower typed.toList <+: Text.lower name.toList := by
  unfold priority
  by_cases hpre : (Text.lower typed.toList).isPrefixOf (Text.lower name.toList) = true
  · simp only [hpre, if_true, true_iff]
    exact List.isPrefixOf_iff_prefix.1 hpre
  · have hnot : ¬ Text.lower typed.toList <+: Text.lower name.toList :=
      fun h => hpre (List.isPrefixOf_iff_prefix.2 h)
    simp only [hpre, Bool.false_eq_true, if_false, hnot, iff_false]
    split <;> simp

/-- A name matches the typed word exactly when the lowercase word occurs in the lowercase
name. -/
theorem priority_ne_none_iff (name typed : String) :
    priority name typed ≠ none ↔ Text.lower typed.toList <:+: Text.lower name.toList := by
  unfold priority
  by_cases hpre : (Text.lower typed.toList).isPrefixOf (Text.lower name.toList) = true
  · simp only [hpre, if_true, ne_eq, reduceCtorEq, not_false_eq_true, true_iff]
    exact (List.isPrefixOf_iff_prefix.1 hpre).isInfix
  · simp only [hpre, Bool.false_eq_true, if_false]
    rw [← occursIn_iff_isInfix]
    split <;> simp_all

/-! ## Typing more -/

/-- **Typing more never brings a candidate back.**  For a typed word `p` without a capital
sigma, and whatever `q` and `r` are typed around it: a name that matches `q ++ p ++ r`
matches `p`; a name that `p ++ r` starts (up to case) is started by `p`; every name that
starts with `p` is a prefix match for it, and every name that contains `p` matches it. -/
theorem priority_narrowing (name p q r : String) (hp : 'Σ' ∉ p.toList) :
    (priority name (q ++ p ++ r) ≠ none → priority name p ≠ none) ∧
      (priority name (p ++ r) = some 0 → priority name p = some 0) ∧
      priority (p ++ r) p = some 0 ∧ priority (q ++ p ++ r) p ≠ none := by
  have hinside := Text.lower_isInfix_lower hp q.toList r.toList
  have hstart := Text.lower_isPrefix_lower hp r.toList
  simp only [priority_ne_none_iff, priority_eq_zero_iff, String.toList_append]
  exact ⟨hinside.trans, hstart.trans, hstart, hinside⟩

/-- Typing `id` inside `user_id` keeps the name `user_id` a candidate. -/
theorem priority_narrowing_user_id :
    'Σ' ∉ "id".toList ∧
      (priority "user_id" ("user_" ++ "id" ++ "") ≠ none → priority "user_id" "id" ≠ none) ∧
      (priority "user_id" ("id" ++ "") = some 0 → priority "user_id" "id" = some 0) ∧
      priority ("id" ++ "") "id" = some 0 ∧ priority ("user_" ++ "id" ++ "") "id" ≠ none :=
  ⟨by decide, priority_narrowing "user_id" "id" "user_" "" (by decide)⟩

/-- **A final sigma loses a prefix match.**  The name `AΣB` starts with the typed word `AΣ`
and is a prefix match for `AΣ ++ B`, yet it does not match `AΣ`: alone, its `Σ` ends a word
and lowercases to `ς`, inside the name to `σ`. -/
theorem priority_sigma_prefix_lost :
    priority "AΣB" ("AΣ" ++ "B") = some 0 ∧ priority "AΣB" "AΣ" = none := by
  decide +kernel

end Completion

end SqlAssist
