import SqlAssist.Cursor.Context
import Mathlib

/-!
# The word under the cursor

`Cursor.parse` reads the text of a line before the cursor and names the word typed so far,
the text the editor replaces with the chosen item.  Every branch of the reading takes that
word from the same place: the longest run of plain word characters (ASCII letters, digits
and `_`) that ends the text, where "ends" admits one final line feed after it.  A qualified
name `q.p` hands on its `p`, which is that same run.

So the word is the longest plain suffix of the text before the cursor, except that a text
ending in a line feed gives the longest plain suffix of the text before that line feed
(`word_parse_plainTail`): the editor's lines never hold a line feed, but a line given to
`parse` directly may, and then the word ends one character before the cursor
(`word_after_line_feed`).

## Main statements

* `plainTail_trailingPlain`: `Word.trailingPlain` is the longest plain suffix.
* `word_parse`: in every branch, the word is the plain run ending the text before the cursor,
  before one final line feed.
* `word_parse_plainTail`: the word is the longest plain suffix of the text before the cursor,
  or of the text before its final line feed.
-/

namespace SqlAssist.Cursor

/-- `w` is the longest suffix of `t` made of plain word characters: the character before it,
if any, is not one. -/
def PlainTail (t w : List Char) : Prop :=
  ∃ u, t = u ++ w ∧ (∀ c ∈ w, Word.isPlain c = true) ∧ ∀ c ∈ u.getLast?, Word.isPlain c = false

/-- **The plain run ending a text is its longest plain suffix.** -/
theorem plainTail_trailingPlain (t : List Char) : PlainTail t (Word.trailingPlain t) := by
  refine ⟨(t.reverse.dropWhile Word.isPlain).reverse, ?_, ?_, ?_⟩
  · rw [Word.trailingPlain, ← List.reverse_append, List.takeWhile_append_dropWhile,
      List.reverse_reverse]
  · intro c hc
    rw [Word.trailingPlain, List.mem_reverse] at hc
    exact List.mem_takeWhile_imp hc
  · -- the character before the run is the first one the run stopped at
    intro c hc
    rw [List.getLast?_reverse] at hc
    have := List.head?_dropWhile_not Word.isPlain t.reverse
    rw [hc] at this
    exact this

/-- The longest plain suffix is unique: it is the plain run ending the text. -/
theorem plainTail_iff {t w : List Char} : PlainTail t w ↔ Word.trailingPlain t = w := by
  constructor
  · rintro ⟨u, rfl, hw, hu⟩
    -- the run stops at the last character of `u`, which is not plain
    have hstop : u.reverse.takeWhile Word.isPlain = [] := by
      cases hr : u.reverse with
      | nil => rfl
      | cons c rest =>
        have hc : Word.isPlain c = false := hu c (by rw [← List.head?_reverse, hr]; rfl)
        simp [hc]
    rw [Word.trailingPlain, List.reverse_append,
      List.takeWhile_append_of_pos fun c hc => hw c (List.mem_reverse.mp hc), hstop,
      List.append_nil, List.reverse_reverse]
  · rintro rfl
    exact plainTail_trailingPlain t

/-- The word a qualified name hands on is the plain run ending the text. -/
theorem qualifiedTail_word {text : List Char} {q p : String} {start : Nat}
    (h : qualifiedTail text = some (q, p, start)) : p = String.ofList (partialWord text) := by
  simp only [qualifiedTail] at h
  split at h
  · split at h
    · cases h
    · cases h
      rfl
  · cases h

/-- **In every branch the word is the plain run ending the text before the cursor**, before
one final line feed: through an alias, after a database qualifier, after a table qualifier,
and in a database, table, column or keyword context. -/
theorem word_parse (line : String) (cursor : Int) (query : Option String) :
    (parse line cursor query).word = String.ofList (partialWord (line.toList.take cursor.toNat)) := by
  simp only [parse]
  split
  · next q p start h =>
    rw [← qualifiedTail_word h]
    split
    · rfl
    · split <;> rfl
  · split_ifs <;> rfl

/-- **The word is the longest plain suffix of the text before the cursor**, or, when that
text ends in a line feed, of the text before the line feed. -/
theorem word_parse_plainTail (line : String) (cursor : Int) (query : Option String) :
    ((line.toList.take (max cursor 0).toNat).getLast? ≠ some '\n' →
        PlainTail (line.toList.take (max cursor 0).toNat) (parse line cursor query).word.toList) ∧
      ∀ t, line.toList.take (max cursor 0).toNat = t ++ ['\n'] →
        PlainTail t (parse line cursor query).word.toList := by
  have hcur : (max cursor 0).toNat = cursor.toNat := by omega
  rw [hcur, word_parse, String.toList_ofList]
  constructor
  · intro hlast
    simpa [partialWord, hlast] using plainTail_trailingPlain (line.toList.take cursor.toNat)
  · intro t ht
    simpa [partialWord, ht] using plainTail_trailingPlain t

/-- A line given with a final line feed: the word is read before the line feed, so it does
not end at the cursor. -/
theorem word_after_line_feed :
    (parse "abc\n" 4 none).word.toList = ['a', 'b', 'c'] ∧
      ¬ PlainTail ['a', 'b', 'c', '\n'] ['a', 'b', 'c'] := by
  refine ⟨?_, ?_⟩
  · rw [word_parse, String.toList_ofList]
    decide +kernel
  rintro ⟨u, hu, -, -⟩
  -- the text ends in a line feed and the word in `c`
  have := congrArg List.getLast? hu
  simp at this

end SqlAssist.Cursor
