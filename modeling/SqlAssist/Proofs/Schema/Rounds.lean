import SqlAssist.Proofs.Schema.Coalescing

/-!
# The rounds of a run

A run handles the events of one queue in order, and a turn puts what it queues at the
back.  So the events go in *rounds*: the events queued at some point form a round, the
events their turns queue form the next one, and a round is handled only once the one
before it is done.  Within a round, an event whose cause was handled earlier comes first.

A `Stamped` run carries that clock along: every queued event has a stamp, the events a
turn queues are stamped one past the stamp of the event it handled, and `now` is the
stamp of the last event handled.  The clock reads the run without changing it
(`Stamped.turn_run`), and as long as every turn only appends to the queue, the stamps
stay sorted and within one round of `now` (`Stamped.Ordered.turn`), so the event at the
front always has the least stamp in the queue (`Stamped.Ordered.head_le`).

What happens first is then a matter of stamps: an event whose stamp is less than
another's is handled before it, and two events of one round are handled in the order of
the queue.  `List.Sublist [a, b]` is that order: `a` stands before `b` in the queue,
which a turn keeps for events it does not handle (`sublist_pair_turn`).

## Main statements

* `Stamped.turn_run`: the stamped run makes the same turns as the run.
* `Stamped.Ordered.turn`: a turn that appends to the queue keeps the stamps ordered.
* `Stamped.Ordered.head_le`: the front event has the least stamp.
* `Stamped.mem_marked_turn`: an event of the queue after a turn was there before, with
  its stamp, or was queued by the turn, one round after the handled event.
-/

namespace SqlAssist.Schema

/-- A run whose queued events carry the round they were queued in, and the round of the
last event handled. -/
structure Stamped where
  run : Run
  stamps : List Nat
  now : Nat

namespace Stamped

/-- One turn of a stamped run: the front event is handled, and the events its turn
queues are stamped one round after it. -/
def turn (s : Stamped) : Stamped :=
  match s.run.queue, s.stamps with
  | e :: rest, h :: hs =>
    let r := ({ s.run with queue := rest } : Run).handle e
    ⟨r, hs ++ List.replicate (r.queue.length - rest.length) (h + 1), h⟩
  | _, _ => ⟨s.run.turn, s.stamps, s.now⟩

/-- **The clock reads the run without changing it.** -/
theorem turn_run (s : Stamped) : s.turn.run = s.run.turn := by
  unfold turn
  split
  · next e rest h hs hq _ => simp [Run.turn, hq]
  · rfl

/-- The queued events with their stamps. -/
def marked (s : Stamped) : List (Event × Nat) := s.run.queue.zip s.stamps

/-- The stamps are as many as the queued events, sorted, and within one round of the
last handled event. -/
structure Ordered (s : Stamped) : Prop where
  length : s.stamps.length = s.run.queue.length
  sorted : s.stamps.Pairwise (· ≤ ·)
  lower : ∀ h ∈ s.stamps, s.now ≤ h
  upper : ∀ h ∈ s.stamps, h ≤ s.now + 1

variable {s : Stamped} {e : Event} {rest new : List Event} {h : Nat} {hs : List Nat}

/-- A turn whose handled event queues `new`: the new events are stamped one round after
the handled one, which becomes the last handled. -/
theorem turn_eq (hq : s.run.queue = e :: rest) (hh : s.stamps = h :: hs)
    (hnew : (({ s.run with queue := rest } : Run).handle e).queue = rest ++ new) :
    s.turn = ⟨({ s.run with queue := rest } : Run).handle e,
      hs ++ List.replicate new.length (h + 1), h⟩ := by
  unfold turn
  simp only [hq, hh, hnew, List.length_append, Nat.add_sub_cancel_left]

/-- Events zipped with one stamp each are the events with that stamp. -/
theorem zip_replicate_length {α : Type} (l : List α) (σ : Nat) :
    l.zip (List.replicate l.length σ) = l.map fun y => (y, σ) := by
  induction l with
  | nil => rfl
  | cons a l ih => simp [List.replicate_succ, ih]

theorem marked_cons (hq : s.run.queue = e :: rest) (hh : s.stamps = h :: hs) :
    s.marked = (e, h) :: rest.zip hs := by
  simp [marked, hq, hh]

/-- The events after a turn, with their stamps: the rest of the queue as it was, then the
new events one round after the handled one. -/
theorem marked_turn (hq : s.run.queue = e :: rest) (hh : s.stamps = h :: hs)
    (hlen : hs.length = rest.length)
    (hnew : (({ s.run with queue := rest } : Run).handle e).queue = rest ++ new) :
    s.turn.marked = rest.zip hs ++ new.map fun y => (y, h + 1) := by
  rw [turn_eq hq hh hnew, marked]
  dsimp only
  rw [hnew, List.zip_append hlen.symm, zip_replicate_length]

theorem mem_marked_turn (hq : s.run.queue = e :: rest) (hh : s.stamps = h :: hs)
    (hlen : hs.length = rest.length)
    (hnew : (({ s.run with queue := rest } : Run).handle e).queue = rest ++ new)
    {y : Event} {σ : Nat} :
    (y, σ) ∈ s.turn.marked ↔ (y, σ) ∈ rest.zip hs ∨ (y ∈ new ∧ σ = h + 1) := by
  rw [marked_turn hq hh hlen hnew, List.mem_append, List.mem_map]
  constructor
  · rintro (hm | ⟨y', hy', hyy⟩)
    · exact .inl hm
    · cases hyy
      exact .inr ⟨hy', rfl⟩
  · rintro (hm | ⟨hy, rfl⟩)
    · exact .inl hm
    · exact .inr ⟨y, hy, rfl⟩

namespace Ordered

/-- **The front event has the least stamp.** -/
theorem head_le (ho : s.Ordered) (hh : s.stamps = h :: hs) : ∀ σ ∈ s.stamps, h ≤ σ := by
  intro σ hσ
  have hsorted := ho.sorted
  rw [hh] at hsorted hσ
  rcases List.mem_cons.1 hσ with rfl | hσ
  · exact le_rfl
  · exact List.rel_of_pairwise_cons hsorted hσ

/-- **A turn that appends to the queue keeps the stamps ordered.**  The events left were
stamped in the handled event's round or the next, and the new ones are stamped in the
next. -/
theorem turn (ho : s.Ordered) (hq : s.run.queue = e :: rest) (hh : s.stamps = h :: hs)
    (hnew : (({ s.run with queue := rest } : Run).handle e).queue = rest ++ new) :
    s.turn.Ordered := by
  have hlen : hs.length = rest.length := by
    have := ho.length
    rw [hq, hh] at this
    simpa using this
  have hleast := ho.head_le hh
  have hup : ∀ σ ∈ hs, σ ≤ h + 1 := fun σ hσ => by
    have h₁ := ho.upper σ (by rw [hh]; exact .tail _ hσ)
    have h₂ := ho.lower h (by rw [hh]; exact List.mem_cons_self)
    omega
  rw [turn_eq hq hh hnew]
  refine ⟨by simp [hnew, hlen], ?_, fun σ hσ => ?_, fun σ hσ => ?_⟩
  · -- the old stamps are sorted and none exceeds the new ones
    have hsorted := ho.sorted
    rw [hh] at hsorted
    refine List.pairwise_append.2 ⟨(List.pairwise_cons.1 hsorted).2, ?_, ?_⟩
    · exact List.pairwise_replicate.2 (.inr le_rfl)
    · intro a ha b hb
      rw [List.eq_of_mem_replicate hb]
      exact hup a ha
  · rcases List.mem_append.1 hσ with hσ | hσ
    · exact hleast σ (by rw [hh]; exact .tail _ hσ)
    · rw [List.eq_of_mem_replicate hσ]
      exact Nat.le_succ h
  · rcases List.mem_append.1 hσ with hσ | hσ
    · exact hup σ hσ
    · rw [List.eq_of_mem_replicate hσ]

end Ordered

end Stamped

/-! ## Order in the queue -/

/-- An event that stands before another in the queue still does after a turn that handles
neither: the handled event was in front of both, and what the turn queues goes behind. -/
theorem sublist_pair_turn {a b x : Event} {rest new : List Event}
    (h : List.Sublist [a, b] (x :: rest)) (ha : x ≠ a) : List.Sublist [a, b] (rest ++ new) :=
  List.sublist_append_of_sublist_left ((List.sublist_cons_iff.1 h).resolve_right
    fun ⟨_, hl, _⟩ => ha (List.cons.inj hl).1.symm)

end SqlAssist.Schema
