import SqlAssist.Proofs.TableNames

/-!
# The occurrences of a binding shape that bind

Each binding shape is scanned on its own, left to right and without overlap
(`shapeMatches`), and a juxtaposed match whose alias is a clause keyword is refused only after
the scan has consumed it, alias included.  A key is therefore bound exactly when some shape's
scan yields an accepted match of it, and an occurrence of a shape that would be accepted where
it stands binds its key unless it lies inside an earlier match of the same shape's scan,
accepted or refused: the scan never starts there.

## Main statements

* `bound_iff_accepted`: the keys that are bound, by the scans and by the occurrences.
* `refused_join_hides_binding`: in `FROM a JOIN b JOIN c d` the juxtaposed `JOIN` scan reads
  `JOIN b JOIN`, refuses it, and never reads `JOIN c d`.
-/

namespace SqlAssist.Alias

/-- Position `i` of `cs` lies inside a match that the scan of the shape `(o, viaAs)` made
earlier, accepted or refused: after the start of that match, before the text it gave back. -/
def InsideShapeMatch (o : Opener) (viaAs : Bool) (cs : List Char) (i : Nat) : Prop :=
  ∃ j x rest, (j, x) ∈ shapeMatches o viaAs cs ∧
    shapeMatcher o viaAs (charBefore none cs j) (cs.drop j) = some (x, rest) ∧ j < i ∧
      i + rest.length < cs.length

/-- A shape matches only where text is left. -/
theorem lt_length_of_shapeMatcher {o : Opener} {viaAs : Bool} {cs : List Char} {i : Nat}
    {x : String × String} {rest : List Char}
    (h : shapeMatcher o viaAs (charBefore none cs i) (cs.drop i) = some (x, rest)) :
    i < cs.length := by
  obtain ⟨l, hl, heq⟩ := consumes_shapeMatcher o viaAs _ _ _ _ h
  by_contra hlt
  rw [List.drop_of_length_le (Nat.le_of_not_lt hlt)] at heq
  exact hl (List.append_eq_nil_iff.mp heq.symm).1

/-- **A key is bound exactly when some shape's scan yields an accepted match of it**, and an
occurrence of a shape that is accepted where it stands binds its key unless it lies inside an
earlier match of that shape's scan, accepted or refused. -/
theorem bound_iff_accepted (text : String) (k : String × String) :
    ((∃ b ∈ bindings text, b.key = k) ↔
      ∃ s ∈ shapes, ∃ m ∈ shapeMatches s.1 s.2 text.toList, ∃ c, accept s.2 m = some c ∧
        c.2.key = k) ∧
    ∀ s ∈ shapes, ∀ i r a rest c,
      shapeMatcher s.1 s.2 (charBefore none text.toList i) (text.toList.drop i) =
        some ((r, a), rest) →
      accept s.2 (i, r, a) = some c → c.2.key = k →
      (∃ b ∈ bindings text, b.key = k) ∨ InsideShapeMatch s.1 s.2 text.toList i := by
  refine ⟨exists_key_bindings_iff text k, fun s hs i r a rest c hm hacc hk => ?_⟩
  have hcons := consumes_shapeMatcher s.1 s.2
  rcases @searchAll_covers _ _ hcons 0 _ _ _ _ _ (lt_length_of_shapeMatcher hm) hm with
    ⟨x, hx⟩ | ⟨j, x, rest', hj, hmj, hji, hend⟩
  · -- the scan starts a match here, and reads what the occurrence reads
    rw [Nat.zero_add] at hx
    obtain ⟨i', -, hii, rest'', hm'⟩ := searchAll_sound hcons hx
    rw [Nat.zero_add] at hii
    subst hii
    rw [hm, Option.some.injEq, Prod.mk.injEq] at hm'
    obtain ⟨rfl, -⟩ := hm'
    exact .inl ((exists_key_bindings_iff text k).2 ⟨s, hs, _, hx, c, hacc, hk⟩)
  · -- the occurrence lies inside a match the scan made earlier
    rw [Nat.zero_add] at hj
    exact .inr ⟨j, x, rest', hj, hmj, hji, hend⟩

/-- A refused alias that is itself `JOIN` is consumed with its match, so the binding that
`JOIN` starts is never scanned. -/
theorem refused_join_hides_binding : bindings "SELECT * FROM a JOIN b JOIN c d" = [] := by
  decide +kernel

end SqlAssist.Alias
