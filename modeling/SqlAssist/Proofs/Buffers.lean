import SqlAssist.Server
import Mathlib

/-!
# Positions and offsets in a buffer

A buffer holds its text cut at every line feed, and the editor features name a place in
that text in two ways: by an *offset*, the number of characters before it, and by a *line
and column*.  `Buffer.positionOf` goes from an offset, clamped into the text, to a line and
a column by counting the line feeds before it and the characters since the last of them.
`Buffer.offsetOf` goes back by measuring the text through the line, taking the line off
and adding the column cut to the line's length.  The two are computed in unrelated ways;
this file shows that they agree at every line boundary, on empty lines, on the last line
and for columns past the end of a line.

## Spots

A *spot* of a list of lines is a line `i` with a column `k` no longer than that line.  When
no line holds a line feed, joining the lines with line feeds puts spot `(i, k)` at offset
`|linesBefore ls i| + k`, where `linesBefore ls i` is the lines before line `i`, each ended
by its line feed.  The joined text up to that offset is `linesBefore ls i` followed by the
first `k` characters of line `i` (`take_intercalate_spot`), and that text holds `i` line
feeds and ends in `k` characters that are none (`count_linesBefore_append`,
`takeWhile_reverse_linesBefore_append`).  Every offset of the joined text is a spot
(`exists_spot`).

## Main statements

* `Buffer.text_ofText`: cutting a text into a buffer and joining its lines gives it back.
* `Buffer.positionOf_offsetOf`: on a buffer whose lines hold no line feed, the offset that a
  line and a column that is not negative give lies at that line and at the column cut to the
  line; the text through the line agrees with the whole text up to it
  (`Buffer.take_textThrough_offsetOf`).
* `Buffer.offsetOf_positionOf`: the line and column of any offset name a line of the buffer
  and a column inside it, and lead back to the offset clamped into the text.
* `Server.completeAt_positionOf`: a server asked for completions at the line and column of an
  offset completes with the offset clamped into the text.
* `Buffer.positions_roundTrip`: all of it for the buffer of any text.
-/

namespace SqlAssist

/-! ## Cutting a text at line feeds -/

/-- A text always has a line, if an empty one. -/
theorem cutLines_ne_nil (cs : List Char) : cutLines cs ≠ [] := by
  cases cs with
  | nil => simp [cutLines]
  | cons c cs =>
    rw [cutLines]
    split
    · simp
    · split <;> simp

/-- Joining the lines of a text with line feeds gives the text back. -/
theorem intercalate_cutLines (cs : List Char) : ['\n'].intercalate (cutLines cs) = cs := by
  induction cs with
  | nil => rfl
  | cons c cs ih =>
    rw [cutLines]
    split
    · next h => exact absurd h (cutLines_ne_nil cs)
    · next l ls h =>
      rw [h] at ih
      split
      · next hc =>
        subst hc
        simp [ih]
      · simp [ih]

/-- No line of a text holds a line feed. -/
theorem newline_not_mem_of_mem_cutLines {cs l : List Char} (h : l ∈ cutLines cs) :
    '\n' ∉ l := by
  induction cs generalizing l with
  | nil =>
    rw [cutLines, List.mem_singleton] at h
    simp [h]
  | cons c cs ih =>
    rw [cutLines] at h
    split at h
    · next hcs => exact absurd hcs (cutLines_ne_nil cs)
    · next l' ls hcs =>
      have hl' : '\n' ∉ l' := ih (by simp [hcs])
      have hls : ∀ m ∈ ls, '\n' ∉ m := fun m hm => ih (by simp [hcs, hm])
      split at h
      · rcases List.mem_cons.mp h with rfl | h
        · simp
        · rcases List.mem_cons.mp h with rfl | h
          · exact hl'
          · exact hls l h
      · next hc =>
        rcases List.mem_cons.mp h with rfl | h
        · simp [Ne.symm hc, hl']
        · exact hls l h

/-! ## Spots in lines joined by line feeds -/

/-- The lines before line `i`, each ended by its line feed: the text in front of line `i`
once the lines are joined. -/
def linesBefore (ls : List (List Char)) (i : Nat) : List Char :=
  (ls.take i).flatMap (· ++ ['\n'])

@[simp] theorem linesBefore_zero (ls : List (List Char)) : linesBefore ls 0 = [] := rfl

@[simp] theorem linesBefore_cons_succ (x : List Char) (ls : List (List Char)) (i : Nat) :
    linesBefore (x :: ls) (i + 1) = x ++ '\n' :: linesBefore ls i := by
  simp [linesBefore]

/-- The text in front of a line is empty or ends in a line feed. -/
theorem linesBefore_eq_nil_or (ls : List (List Char)) (i : Nat) :
    linesBefore ls i = [] ∨ ∃ p, linesBefore ls i = p ++ ['\n'] := by
  induction ls generalizing i with
  | nil => simp [linesBefore]
  | cons x ls ih =>
    cases i with
    | zero => simp
    | succ i =>
      rcases ih i with h | ⟨p, h⟩
      · exact .inr ⟨x, by simp [h]⟩
      · exact .inr ⟨x ++ '\n' :: p, by simp [h]⟩

/-- The lines through line `i`, joined, are the text in front of line `i` and the line. -/
theorem intercalate_take_succ {ls : List (List Char)} {i : Nat} (hi : i < ls.length) :
    ['\n'].intercalate (ls.take (i + 1)) = linesBefore ls i ++ ls[i] := by
  induction ls generalizing i with
  | nil => simp at hi
  | cons x ls ih =>
    cases i with
    | zero => simp
    | succ i =>
      have hi' : i < ls.length := by simpa using hi
      have hne : ls.take (i + 1) ≠ [] := List.ne_nil_of_length_pos (by simp; omega)
      rw [List.take_succ_cons, List.intercalate_cons_of_ne_nil hne, ih hi']
      simp

/-- **The joined text up to a spot** is the text in front of its line and the first
characters of the line. -/
theorem take_intercalate_spot {ls : List (List Char)} {i k : Nat} (hi : i < ls.length)
    (hk : k ≤ ls[i].length) :
    (['\n'].intercalate ls).take ((linesBefore ls i).length + k) =
      linesBefore ls i ++ ls[i].take k := by
  induction ls generalizing i with
  | nil => simp at hi
  | cons x ls ih =>
    cases i with
    | zero =>
      -- the first line is a prefix of the joined text
      have hkx : k ≤ x.length := by simpa using hk
      cases ls with
      | nil => simp
      | cons y ls =>
        simp only [linesBefore_zero, List.length_nil, Nat.zero_add, List.nil_append,
          List.getElem_cons_zero]
        rw [List.intercalate_cons_cons, List.append_assoc, List.take_append_of_le_length hkx]
    | succ i =>
      have hi' : i < ls.length := by simpa using hi
      have hne : ls ≠ [] := List.ne_nil_of_length_pos (by omega)
      have hk' : k ≤ ls[i].length := by simpa using hk
      have hlen : (x ++ '\n' :: linesBefore ls i).length + k =
          x.length + ((linesBefore ls i).length + k + 1) := by
        simp
        omega
      rw [List.intercalate_cons_of_ne_nil hne, linesBefore_cons_succ, List.getElem_cons_succ,
        hlen, List.append_assoc, List.take_length_add_append, List.singleton_append,
        List.take_succ_cons, ih hi' hk']
      simp

/-- A spot lies inside the joined text. -/
theorem spot_le_length {ls : List (List Char)} {i k : Nat} (hi : i < ls.length)
    (hk : k ≤ ls[i].length) :
    (linesBefore ls i).length + k ≤ (['\n'].intercalate ls).length := by
  have h := congrArg List.length (take_intercalate_spot hi hk)
  simp only [List.length_take, List.length_append] at h
  omega

/-- **Every offset of the joined text is a spot.** -/
theorem exists_spot {ls : List (List Char)} (hne : ls ≠ []) {o : Nat}
    (ho : o ≤ (['\n'].intercalate ls).length) :
    ∃ i, ∃ hi : i < ls.length, ∃ k ≤ ls[i].length, o = (linesBefore ls i).length + k := by
  induction ls generalizing o with
  | nil => exact absurd rfl hne
  | cons x ls ih =>
    by_cases hx : o ≤ x.length
    · exact ⟨0, by simp, o, by simpa using hx, by simp⟩
    · -- past the first line there is a line feed and then the rest of the lines
      have hls : ls ≠ [] := by
        rintro rfl
        simp at ho
        omega
      rw [List.intercalate_cons_of_ne_nil hls] at ho
      simp only [List.length_append, List.length_singleton] at ho
      obtain ⟨i, hi, k, hk, hik⟩ := ih hls (o := o - x.length - 1) (by omega)
      refine ⟨i + 1, by simpa using hi, k, by simpa using hk, ?_⟩
      simp only [linesBefore_cons_succ, List.length_append, List.length_cons]
      omega

/-- The text in front of line `i` holds one line feed per line before it. -/
theorem count_linesBefore {ls : List (List Char)} (hls : ∀ l ∈ ls, '\n' ∉ l) {i : Nat}
    (hi : i ≤ ls.length) : (linesBefore ls i).count '\n' = i := by
  induction ls generalizing i with
  | nil => simp_all [linesBefore]
  | cons x ls ih =>
    cases i with
    | zero => simp
    | succ i =>
      have hx : x.count '\n' = 0 := List.count_eq_zero.mpr (hls x List.mem_cons_self)
      have := ih (fun l hl => hls l (List.mem_cons_of_mem _ hl)) (i := i) (by simpa using hi)
      simp [List.count_append, hx, this]

/-- **The line of a spot**: the text up to it counts the lines before it. -/
theorem count_linesBefore_append {ls : List (List Char)} (hls : ∀ l ∈ ls, '\n' ∉ l)
    {i : Nat} (hi : i ≤ ls.length) {y : List Char} (hy : '\n' ∉ y) :
    (linesBefore ls i ++ y).count '\n' = i := by
  rw [List.count_append, count_linesBefore hls hi, List.count_eq_zero.mpr hy, Nat.add_zero]

/-- **The column of a spot**: read back from the spot to the last line feed, the text up to
it ends in the characters of its own line. -/
theorem takeWhile_reverse_linesBefore_append (ls : List (List Char)) (i : Nat)
    {y : List Char} (hy : '\n' ∉ y) :
    (linesBefore ls i ++ y).reverse.takeWhile (· ≠ '\n') = y.reverse := by
  have hy' : ∀ c ∈ y.reverse, decide (c ≠ '\n') = true := by
    intro c hc
    simp only [List.mem_reverse] at hc
    simpa using fun h : c = '\n' => hy (h ▸ hc)
  rw [List.reverse_append, List.takeWhile_append_of_pos hy']
  rcases linesBefore_eq_nil_or ls i with h | ⟨p, h⟩ <;> simp [h]

/-! ## Lines, columns and offsets of a buffer -/

namespace Buffer

/-- The lines of a buffer, as lists of characters. -/
def rows (b : Buffer) : List (List Char) := b.lines.map String.toList

/-- A buffer is *well cut* when it has a line and no line holds a line feed, as the buffer of
a text always is (`wellCut_ofText`). -/
structure WellCut (b : Buffer) : Prop where
  lines_ne_nil : b.lines ≠ []
  newline_not_mem : ∀ l ∈ b.lines, '\n' ∉ l.toList

variable {b : Buffer}

@[simp] theorem length_rows (b : Buffer) : b.rows.length = b.lines.length := by
  simp [rows]

theorem WellCut.rows_ne_nil (hb : b.WellCut) : b.rows ≠ [] := by
  simpa [rows] using hb.lines_ne_nil

theorem WellCut.newline_not_mem_rows (hb : b.WellCut) : ∀ l ∈ b.rows, '\n' ∉ l := by
  intro l hl
  obtain ⟨s, hs, rfl⟩ := List.mem_map.mp hl
  exact hb.newline_not_mem s hs

/-- The text of a buffer is its lines joined by line feeds. -/
theorem text_toList (b : Buffer) : b.text.toList = ['\n'].intercalate b.rows := by
  simp [text, rows]

/-- The text through line `i` is the lines through it joined by line feeds. -/
theorem textThrough_toList (b : Buffer) (i : Nat) :
    (b.textThrough i).toList = ['\n'].intercalate (b.rows.take (i + 1)) := by
  rw [textThrough, if_neg (by omega)]
  simp [rows, List.map_take]

theorem line?_of_lt {i : Nat} (hi : i < b.lines.length) : b.line? i = some b.lines[i] := by
  simp [line?, hi]

/-- **The line and column of a spot**: an offset that the clamp brings to spot `(i, k)` lies
at line `i` and column `k`. -/
theorem positionOf_of_clamp (hb : b.WellCut) {i k : Nat} (hi : i < b.lines.length)
    (hk : k ≤ b.lines[i].length) {x : Int}
    (hx : Statement.clampOffset b.text.toList.length x = (linesBefore b.rows i).length + k) :
    b.positionOf x = (i, k) := by
  have hi' : i < b.rows.length := by simpa using hi
  have hk' : k ≤ b.rows[i].length := by simpa [rows, String.length_toList] using hk
  have hy : '\n' ∉ b.rows[i].take k := fun h =>
    hb.newline_not_mem_rows _ (List.getElem_mem hi') (List.mem_of_mem_take h)
  have hbefore : b.text.toList.take (Statement.clampOffset b.text.toList.length x) =
      linesBefore b.rows i ++ b.rows[i].take k := by
    rw [hx, text_toList, take_intercalate_spot hi' hk']
  simp only [positionOf, hbefore, count_linesBefore_append hb.newline_not_mem_rows hi'.le hy,
    takeWhile_reverse_linesBefore_append _ _ hy, List.length_reverse, List.length_take]
  simpa [rows, String.length_toList] using hk

/-- The offset of column `c` of line `i` is the text in front of the line and the column cut
to the line. -/
theorem offsetOf_eq {i : Nat} (hi : i < b.lines.length) (c : Int) :
    b.offsetOf i b.lines[i] c = ((linesBefore b.rows i).length : Int) + min c b.lines[i].length := by
  have hi' : i < b.rows.length := by simpa using hi
  have hlen : (b.textThrough i).length = (linesBefore b.rows i).length + b.lines[i].length := by
    rw [← String.length_toList, textThrough_toList, intercalate_take_succ hi']
    simp [rows, String.length_toList]
  simp only [offsetOf, hlen]
  omega

/-- **From a line and column to an offset and back.**  On a well-cut buffer, the offset of
line `l` and a column `c` that is not negative lies at line `l` and at `c` cut to the line. -/
theorem positionOf_offsetOf (hb : b.WellCut) {l : Nat} (hl : l < b.lines.length) {c : Int}
    (hc : 0 ≤ c) :
    b.positionOf (b.offsetOf l b.lines[l] c) = (l, (min c b.lines[l].length).toNat) := by
  have hk : (min c b.lines[l].length).toNat ≤ b.lines[l].length := by omega
  apply positionOf_of_clamp hb hl hk
  have hle := @spot_le_length b.rows l (min c b.lines[l].length).toNat (by simpa using hl)
    (by simp [rows, String.length_toList])
  rw [offsetOf_eq hl, Statement.clampOffset, text_toList]
  omega

/-- The text through a line agrees with the whole text up to any column of the line. -/
theorem take_textThrough_offsetOf {l : Nat} (hl : l < b.lines.length) {c : Int} (hc : 0 ≤ c) :
    (b.textThrough l).toList.take (b.offsetOf l b.lines[l] c).toNat =
      b.text.toList.take (b.offsetOf l b.lines[l] c).toNat := by
  have hl' : l < b.rows.length := by simpa using hl
  have hk : (min c b.lines[l].length).toNat ≤ b.rows[l].length := by
    simp only [rows, List.getElem_map, String.length_toList]
    omega
  have hoff : (b.offsetOf l b.lines[l] c).toNat =
      (linesBefore b.rows l).length + (min c b.lines[l].length).toNat := by
    rw [offsetOf_eq hl]
    omega
  rw [hoff, textThrough_toList, intercalate_take_succ hl', List.take_length_add_append,
    text_toList, take_intercalate_spot hl' hk]

/-- **From an offset to a line and column and back.**  The line and column of any offset
name a line of a well-cut buffer and a column inside it, and their offset is the offset
clamped into the text. -/
theorem offsetOf_positionOf (hb : b.WellCut) (x : Int) :
    ∃ line, b.line? (b.positionOf x).1 = some line ∧ (b.positionOf x).2 ≤ line.length ∧
      b.offsetOf (b.positionOf x).1 line (b.positionOf x).2 = min (max x 0) b.text.length := by
  have ho : Statement.clampOffset b.text.toList.length x ≤ (['\n'].intercalate b.rows).length := by
    rw [← text_toList]
    simp [Statement.clampOffset]
  obtain ⟨i, hi, k, hk, hik⟩ := exists_spot hb.rows_ne_nil ho
  have hi' : i < b.lines.length := by simpa using hi
  have hk' : k ≤ b.lines[i].length := by simpa [rows, String.length_toList] using hk
  rw [positionOf_of_clamp hb hi' hk' hik]
  refine ⟨b.lines[i], line?_of_lt hi', hk', ?_⟩
  rw [offsetOf_eq hi']
  simp only [Statement.clampOffset, String.length_toList] at hik
  omega

/-! ## The buffer of a text -/

theorem rows_ofText (t : String) : (ofText t).rows = cutLines t.toList := by
  simp [rows, ofText, Function.comp_def]

/-- The buffer of a text is well cut. -/
theorem wellCut_ofText (t : String) : (ofText t).WellCut where
  lines_ne_nil := by simpa [ofText] using cutLines_ne_nil t.toList
  newline_not_mem l hl := by
    obtain ⟨m, hm, rfl⟩ := List.mem_map.mp hl
    simpa using newline_not_mem_of_mem_cutLines hm

/-- **Cutting a text into a buffer and joining its lines gives the text back.** -/
theorem text_ofText (t : String) : (ofText t).text = t := by
  apply String.toList_injective
  rw [text_toList, rows_ofText, intercalate_cutLines]

end Buffer

/-- **The cursor path of the command line.**  Asked for completions at the line and column
of an offset, a server over a well-cut buffer completes that line with the offset clamped
into the text. -/
theorem Server.completeAt_positionOf {s : Server} (hb : s.buffer.WellCut) (x : Int) :
    ∃ line, s.buffer.line? (s.buffer.positionOf x).1 = some line ∧
      s.completeAt (s.buffer.positionOf x).1 (s.buffer.positionOf x).2 =
        s.service.complete line (s.buffer.positionOf x).2
          (some (s.buffer.textThrough (s.buffer.positionOf x).1))
          (some (min (max x 0) s.buffer.text.length)) := by
  obtain ⟨line, hline, -, hoff⟩ := Buffer.offsetOf_positionOf hb x
  refine ⟨line, hline, ?_⟩
  simp only [Server.completeAt, hline, hoff]

namespace Buffer

/-- **Positions and offsets round-trip.**  For the buffer of any text: its text is the text;
the offset that a line of it and a column that is not negative give lies at that line and at
the column cut to the line, with the text through the line agreeing with the whole text up
to it; the line and column of any offset name a line and a column inside it whose offset
is the offset clamped into the text; so a server over the buffer, asked for completions at
the line and column of an offset, completes with the offset clamped into the text. -/
theorem positions_roundTrip (t : String) :
    let b : Buffer := ofText t
    b.text = t ∧
    (∀ l c : Int, 0 ≤ l → l < b.lineCount → 0 ≤ c →
      ∃ line, b.line? l = some line ∧
        b.positionOf (b.offsetOf l line c) = (l.toNat, (min c line.length).toNat) ∧
        (b.textThrough l).toList.take (b.offsetOf l line c).toNat =
          t.toList.take (b.offsetOf l line c).toNat) ∧
    (∀ x : Int, ∃ line, b.line? (b.positionOf x).1 = some line ∧
      (b.positionOf x).2 ≤ line.length ∧
      b.offsetOf (b.positionOf x).1 line (b.positionOf x).2 = min (max x 0) t.length) ∧
    ∀ (service : Service) (x : Int), ∃ line, b.line? (b.positionOf x).1 = some line ∧
      Server.completeAt ⟨service, b⟩ (b.positionOf x).1 (b.positionOf x).2 =
        service.complete line (b.positionOf x).2 (some (b.textThrough (b.positionOf x).1))
          (some (min (max x 0) t.length)) := by
  intro b
  have hb : b.WellCut := wellCut_ofText t
  have ht : b.text = t := text_ofText t
  refine ⟨ht, ?_, ?_, ?_⟩
  · intro l c hl0 hl hc
    lift l to Nat using hl0
    have hl' : l < b.lines.length := by simpa [lineCount] using hl
    refine ⟨b.lines[l], line?_of_lt hl', by simpa using positionOf_offsetOf hb hl' hc, ?_⟩
    rw [take_textThrough_offsetOf hl' hc, ht]
  · intro x
    simpa [ht] using offsetOf_positionOf hb x
  · intro service x
    simpa [ht] using Server.completeAt_positionOf (s := ⟨service, b⟩) hb x

end Buffer

end SqlAssist
