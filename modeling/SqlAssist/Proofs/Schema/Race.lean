import SqlAssist.Proofs.Schema.DatabaseTurns
import SqlAssist.Proofs.Schema.Rounds

/-!
# The race of the database tasks

Once the loader has started its group, every database task asks for its tables, in the
order of the databases.  The loader's group records the failure it notes first, and the
load fails with that one.  Which failure is noted first is a matter of rounds
(`SqlAssist.Proofs.Schema.Rounds`): the database tasks take their first steps in one
round, `R`.  A task whose question for the tables fails at once fails in that round, and
its group notes it in round `R + 1`; one whose question yields fails one round later,
and is noted in round `R + 2`.  A task that fails because a column task of its group
failed is noted in round `R + 3` at the earliest: its column tasks start in round
`R + 1`, their failures are noted from round `R + 2`, and the task ends after that.
Within a round the tasks go in the order of their first steps, which is the order of the
databases, and each keeps its place: a task ahead of another at the start is ahead of it
at every later round (`Stamped.Ahead`).

So the first failure noted is that of the first database whose question for the tables
fails at once, or if there is none, of the first whose question for the tables fails
after yielding (`FirstFailing`).  `Stamped.Race` is the invariant that carries this
through every turn up to that note.

## Main statements

* `Stamped.Race.front_note`: while the race is on, the only failed task whose note can
  come first is the one `FirstFailing` picks.
* `Stamped.Race.turn`: every other turn keeps the race on.
-/

namespace SqlAssist.Schema

/-- Whether an event is a step of task `x`. -/
def Event.isStepOf (x : Nat) : Event → Bool
  | .step j _ => j == x
  | _ => false

/-- Whether an event is the note of task `x`'s end to group `g`. -/
def Event.isNoteOf (g x : Nat) : Event → Bool
  | .childDone g' c => g' == g && c == x
  | _ => false

theorem Event.eq_of_isStepOf {x : Nat} {y : Event} (h : y.isStepOf x = true) :
    ∃ th, y = .step x th := by
  cases y with
  | step j th => exact ⟨th, by simpa [Event.isStepOf] using h⟩
  | _ => cases h

theorem Event.eq_of_isNoteOf {g x : Nat} {y : Event} (h : y.isNoteOf g x = true) :
    y = .childDone g x := by
  cases y with
  | childDone g' c =>
    simp only [Event.isNoteOf, Bool.and_eq_true, beq_iff_eq] at h
    rw [h.1, h.2]
  | _ => cases h

theorem Run.Event.eq_step_of_stepped {e : Event} {j : Nat} (h : Run.Event.stepped e = some j) :
    ∃ th, e = .step j th := by
  cases e with
  | step i th =>
    cases h
    exact ⟨th, rfl⟩
  | _ => cases h

/-- Whether the question of a load from the source `s` for the tables of `d` yields. -/
def tablesYield (s : Option Source) (d : Value) : Bool := (namesReply s (some d)).yields

/-- Among the databases `dbs`, `k` is the one whose tables fail first: the first of those
whose question fails at once, or, when every question for tables that fails yields, the
first whose tables fail. -/
structure FirstFailing (s : Option Source) (dbs : List Value) (k : Nat) : Prop where
  lt : k < dbs.length
  fails : (tablesFailure s dbs[k]).isSome
  first : ∀ i (hi : i < dbs.length), i < k → tablesYield s dbs[i] = tablesYield s dbs[k] →
    tablesFailure s dbs[i] = none
  atOnce : tablesYield s dbs[k] = true → ∀ i (hi : i < dbs.length),
    (tablesFailure s dbs[i]).isSome → tablesYield s dbs[i] = true

/-- How far a database task whose tables fail has come in the race: `0` at its start, `1`
holding the answer of a question that yielded, and once failed `1` or `2`, as its
question failed at once or after yielding. -/
def chainDepth (y : Bool) (t : Task) : Nat :=
  match t.ending with
  | some _ => if y then 2 else 1
  | none =>
    match t.phase with
    | .start => 0
    | _ => 1

/-- The event by which a database task `x` whose tables fail goes on in the race: its
step, and once it has failed, the note of its end. -/
def chainEvent (x : Nat) (t : Task) : Event :=
  if t.ending.isSome then .childDone 0 x else .step x false

namespace Stamped

variable (R : Nat)

/-- Where the database task `x`, whose tables fail with `lf` and whose question yields as
`y` says, stands in the race: at its start with its step queued in round `R`; holding the
answer of a question that yielded, with its step queued in round `R + 1`; or failed, with
the note of its end queued in the round after its last step. -/
inductive Chain (s : Stamped) (x : Nat) (y : Bool) (lf : LoadFailure) : Prop
  | start : (s.run.task x).ending = none → (s.run.task x).phase = .start →
      s.marked.filter (fun p => p.1.isStepOf x) = [(.step x false, R)] → Chain s x y lf
  | waiting : y = true → (s.run.task x).ending = none → (∃ o, (s.run.task x).phase = .gotNames o) →
      s.marked.filter (fun p => p.1.isStepOf x) = [(.step x false, R + 1)] → Chain s x y lf
  | ended : (s.run.task x).ending = some (.failed (.raise lf)) →
      s.marked.filter (fun p => p.1.isNoteOf 0 x) = [(.childDone 0 x, R + if y then 2 else 1)] →
      Chain s x y lf

/-- Task `a` is ahead of task `b` in the race: `b` has come no further, and where both have
come as far, the event by which `a` goes on is queued before that of `b`. -/
def Ahead (s : Stamped) (y : Bool) (a b : Nat) : Prop :=
  chainDepth y (s.run.task b) ≤ chainDepth y (s.run.task a) ∧
    (chainDepth y (s.run.task b) = chainDepth y (s.run.task a) →
      List.Sublist [chainEvent a (s.run.task a), chainEvent b (s.run.task b)] s.run.queue)

variable (dbs : List Value)

/-- The rounds the events of the race are queued in: all from round `R` on; the steps of
the tasks after the database tasks, the column tasks, from round `R + 1`; the notes of a
column task's end from round `R + 2`; the note of a database task that failed with its
group's failures from round `R + 3`.  No other event is queued. -/
def Fits (r : Run) : Event × Nat → Prop
  | (.step w _, σ) => R ≤ σ ∧ 3 ≤ w ∧ (3 + dbs.length ≤ w → R + 1 ≤ σ)
  | (.childDone g c, σ) => R ≤ σ ∧ (g ≠ 0 → R + 2 ≤ σ) ∧
      (g = 0 → ∀ fs, (r.task c).ending = some (.failed (.group fs)) → R + 3 ≤ σ)
  | _ => False

variable (S : LoadSetting) (k : Nat)

/-- **The race of the database tasks**, run from the loader's group of the databases
`dbs`, whose first steps were queued in round `R`, up to the note of the end of the task
of database `k`.  The loader waits on its group, which has recorded no failure; the task
of the `i`-th database is task `3 + i` and a member of the loader's group, and no later
task is; every queued event is in its round; a column task's failure is noted from round
`R + 2` on; a database task fails with the failure of its tables only if they fail; every
database task whose tables fail is on its way; and of two such tasks whose questions
yield alike, the one of the earlier database is ahead. -/
structure Race (s : Stamped) : Prop where
  inv : s.run.LoadInv S
  ordered : s.Ordered
  loader : (s.run.task 2).ending = none ∧ (s.run.task 2).phase = .grouped 0
  unrecorded : (s.run.group 0).errors = []
  size : 3 + dbs.length ≤ s.run.tasks.size
  databases : ∀ i (hi : i < dbs.length),
    (s.run.task (3 + i)).role = .database 2 dbs[i] ∧ s.run.Member 0 (3 + i)
  others : ∀ c g, 3 + dbs.length ≤ c → s.run.Member g c → g ≠ 0
  events : ∀ p ∈ s.marked, Fits R dbs s.run p
  recorded : ∀ g, g ≠ 0 → (s.run.group g).errors ≠ [] → R + 2 ≤ s.now
  raised : ∀ i (hi : i < dbs.length) lf,
    (s.run.task (3 + i)).ending = some (.failed (.raise lf)) → tablesFailure S.source dbs[i] = some lf
  chains : ∀ i (hi : i < dbs.length) lf, tablesFailure S.source dbs[i] = some lf →
    Chain R s (3 + i) (tablesYield S.source dbs[i]) lf
  lockstep : ∀ i (hi : i < dbs.length) (hk : k < dbs.length), k < i →
    (tablesFailure S.source dbs[i]).isSome → tablesYield S.source dbs[i] = tablesYield S.source dbs[k] →
    Ahead s (tablesYield S.source dbs[k]) (3 + k) (3 + i)

/-! ## Where a task whose tables fail stands -/

theorem Ordered.tail_length {s : Stamped} {e : Event} {rest : List Event} {h : Nat} {hs : List Nat}
    (ho : s.Ordered) (hq : s.run.queue = e :: rest) (hh : s.stamps = h :: hs) :
    hs.length = rest.length := by
  have hlen := ho.length
  rw [hq, hh] at hlen
  simpa using hlen

/-- An event of the queue has a stamp. -/
theorem exists_mem_zip {rest : List Event} {hs : List Nat} (hlen : hs.length = rest.length)
    {y : Event} (hy : y ∈ rest) : ∃ σ, (y, σ) ∈ rest.zip hs := by
  rw [← List.map_fst_zip hlen.ge] at hy
  obtain ⟨p, hp, rfl⟩ := List.mem_map.1 hy
  exact ⟨p.2, hp⟩

end Stamped

theorem chainDepth_le (y : Bool) (t : Task) : chainDepth y t ≤ if y then 2 else 1 := by
  unfold chainDepth
  split
  · exact le_rfl
  · split <;> cases y <;> simp

theorem chainDepth_of_isSome {t : Task} (h : t.ending.isSome) (y : Bool) :
    chainDepth y t = if y then 2 else 1 := by
  obtain ⟨e, he⟩ := Option.isSome_iff_exists.1 h
  simp [chainDepth, he]

theorem chainEvent_of_isSome {t : Task} (h : t.ending.isSome) (x : Nat) :
    chainEvent x t = .childDone 0 x := by
  simp [chainEvent, h]

theorem chainEvent_of_none {t : Task} (h : t.ending = none) (x : Nat) :
    chainEvent x t = .step x false := by
  simp [chainEvent, h]

/-- A task that keeps its ending and phase stays as far as it was in the race. -/
theorem chainDepth_congr {t t' : Task} (he : t'.ending = t.ending) (hp : t'.phase = t.phase)
    (y : Bool) : chainDepth y t' = chainDepth y t := by
  simp only [chainDepth, he, hp]

theorem chainEvent_congr {t t' : Task} (he : t'.ending = t.ending) (x : Nat) :
    chainEvent x t' = chainEvent x t := by
  simp only [chainEvent, he]

namespace Stamped

namespace Chain

variable {R : Nat} {s : Stamped} {x : Nat} {y : Bool} {lf : LoadFailure}

/-- The event by which a task goes on in the race is queued, in the round of its depth. -/
theorem mem (hc : Chain R s x y lf) :
    (chainEvent x (s.run.task x), R + chainDepth y (s.run.task x)) ∈ s.marked := by
  cases hc with
  | start hend hph hf =>
    have hm : (Event.step x false, R) ∈ s.marked.filter (fun p => p.1.isStepOf x) := by
      rw [hf]
      exact List.mem_singleton_self _
    simpa [chainEvent, chainDepth, hend, hph] using List.mem_of_mem_filter hm
  | waiting _ hend hph hf =>
    obtain ⟨o, ho⟩ := hph
    have hm : (Event.step x false, R + 1) ∈ s.marked.filter (fun p => p.1.isStepOf x) := by
      rw [hf]
      exact List.mem_singleton_self _
    simpa [chainEvent, chainDepth, hend, ho] using List.mem_of_mem_filter hm
  | ended hend hf =>
    have hm : (Event.childDone 0 x, R + if y then 2 else 1) ∈
        s.marked.filter (fun p => p.1.isNoteOf 0 x) := by
      rw [hf]
      exact List.mem_singleton_self _
    simpa [chainEvent, chainDepth, hend] using List.mem_of_mem_filter hm

/-- The note at the front of the queue of a task that has failed was queued in the round
after the task's last step, and is queued once. -/
theorem note_front (hc : Chain R s x y lf) (hx : (s.run.task x).ending.isSome) {σ : Nat}
    {tail : List (Event × Nat)} (hm : s.marked = (.childDone 0 x, σ) :: tail) :
    σ = R + (if y then 2 else 1) ∧ ∀ p ∈ tail, p.1.isNoteOf 0 x = false := by
  cases hc with
  | start hend _ _ => simp [hend] at hx
  | waiting _ hend _ _ => simp [hend] at hx
  | ended _ hf =>
    rw [hm, List.filter_cons_of_pos (by simp [Event.isNoteOf])] at hf
    obtain ⟨hhead, htail⟩ := List.cons.inj hf
    exact ⟨(Prod.mk.inj hhead).2, fun p hp => by simpa using List.filter_eq_nil_iff.1 htail p hp⟩

/-- The step at the front of the queue of a task on its way is no cancel, was queued in the
round of the task's depth, and is queued once. -/
theorem step_front (hc : Chain R s x y lf) (hx : (s.run.task x).ending = none) {th : Bool}
    {σ : Nat} {tail : List (Event × Nat)} (hm : s.marked = (.step x th, σ) :: tail) :
    th = false ∧ σ = R + chainDepth y (s.run.task x) ∧ ∀ p ∈ tail, p.1.isStepOf x = false := by
  have hstep : ∀ {τ : Nat}, s.marked.filter (fun p => p.1.isStepOf x) = [(.step x false, τ)] →
      th = false ∧ σ = τ ∧ ∀ p ∈ tail, p.1.isStepOf x = false := fun hf => by
    rw [hm, List.filter_cons_of_pos (by simp [Event.isStepOf])] at hf
    obtain ⟨hhead, htail⟩ := List.cons.inj hf
    obtain ⟨h₁, h₂⟩ := Prod.mk.inj hhead
    exact ⟨(Event.step.inj h₁).2, h₂, fun p hp => by simpa using List.filter_eq_nil_iff.1 htail p hp⟩
  cases hc with
  | start hend hph hf =>
    obtain ⟨h₁, h₂, h₃⟩ := hstep hf
    exact ⟨h₁, by simp [h₂, chainDepth, hend, hph], h₃⟩
  | waiting _ hend hph hf =>
    obtain ⟨o, ho⟩ := hph
    obtain ⟨h₁, h₂, h₃⟩ := hstep hf
    exact ⟨h₁, by simp [h₂, chainDepth, hend, ho], h₃⟩
  | ended hend _ => simp [hend] at hx

end Chain

namespace Race

variable {R : Nat} {dbs : List Value} {S : LoadSetting} {k : Nat} {s : Stamped}
  {e : Event} {rest : List Event} {h : Nat} {hs : List Nat}

theorem fits_head (hr : Race R dbs S k s) (hq : s.run.queue = e :: rest)
    (hh : s.stamps = h :: hs) : Fits R dbs s.run (e, h) :=
  hr.events _ (by rw [marked_cons hq hh]; exact List.mem_cons_self)

theorem le_head (hr : Race R dbs S k s) (hq : s.run.queue = e :: rest)
    (hh : s.stamps = h :: hs) : R ≤ h := by
  have hf := hr.fits_head hq hh
  cases e with
  | step => exact hf.1
  | childDone => exact hf.1
  | forget => exact hf.elim
  | relay => exact hf.elim

theorem now_le (hr : Race R dbs S k s) (hh : s.stamps = h :: hs) : s.now ≤ h :=
  hr.ordered.lower h (by rw [hh]; exact List.mem_cons_self)

/-- The loader's group is group `0`. -/
theorem loaderGroup (hr : Race R dbs S k s) : 0 < s.run.groups.size ∧ (s.run.group 0).owner = 2 :=
  hr.inv.tree.grouped 2 0 le_rfl hr.loader.2

/-- The loader's group is not aborting: it has recorded no failure, and the loader is a
member of no group, so it is not cancelled from outside. -/
theorem not_aborting (hr : Race R dbs S k s) : (s.run.group 0).aborting = false := by
  obtain ⟨hg, hown⟩ := hr.loaderGroup
  cases hab : (s.run.group 0).aborting
  · rfl
  · rcases hr.inv.tree.abortReason 0 hg hab with herr | hout
    · exact absurd hr.unrecorded herr
    · obtain ⟨g', -, hm, -⟩ := hr.inv.tree.outside 0 hg hout
      rw [hown] at hm
      have := (hr.inv.tree.member g' 2 hm).1
      omega

/-- A member of the loader's group is a database task. -/
theorem database_of_member (hr : Race R dbs S k s) {c : Nat} (hm : s.run.Member 0 c) :
    ∃ i < dbs.length, c = 3 + i := by
  have h3 := (hr.inv.tree.member 0 c hm).1
  have hlt : c < 3 + dbs.length := by
    by_contra hc
    exact hr.others c 0 (by omega) hm rfl
  exact ⟨c - 3, by omega, by omega⟩

/-- A database task is a member of the loader's group only. -/
theorem member_database (hr : Race R dbs S k s) {i g : Nat} (hi : i < dbs.length)
    (hm : s.run.Member g (3 + i)) : g = 0 :=
  Run.Member.unique hm (hr.databases i hi).2

/-- While the race is on, the loader's group waits for the task of the first failing
database. -/
theorem mem_live (hr : Race R dbs S k s) (hk : FirstFailing S.source dbs k) :
    3 + k ∈ (s.run.group 0).live := by
  obtain ⟨hg, -⟩ := hr.loaderGroup
  obtain ⟨lf, hlf⟩ := Option.isSome_iff_exists.1 hk.fails
  by_contra hnot
  have hsize := hr.size
  have hkn := hk.lt
  obtain ⟨hended, hhow⟩ :=
    hr.inv.tree.noted 0 hg (3 + k) (by omega) (hr.databases k hk.lt).2 hnot
  have hfail : (s.run.task (3 + k)).ending = some (.failed (.raise lf)) := by
    cases hr.chains k hk.lt lf hlf with
    | start hend _ _ => simp [hend] at hended
    | waiting _ hend _ _ => simp [hend] at hended
    | ended hend _ => exact hend
  rcases hhow with hok | herr | hab
  · rw [hfail] at hok
    cases hok
  · exact herr hr.unrecorded
  · rw [hr.not_aborting] at hab
    cases hab

/-- A database task at its start or holding its answer is not cancelled: it is a member of
the loader's group only, which does not abort, and it owns no group. -/
theorem calm (hr : Race R dbs S k s) {i : Nat} (hi : i < dbs.length)
    (hend : (s.run.task (3 + i)).ending = none)
    (hph : (s.run.task (3 + i)).phase = .start ∨ ∃ o, (s.run.task (3 + i)).phase = .gotNames o)
    {th : Bool} (hq : s.run.queue = .step (3 + i) th :: rest) :
    (th || (s.run.task (3 + i)).mustCancel) = false := by
  cases hth : (th || (s.run.task (3 + i)).mustCancel)
  · rfl
  · exfalso
    have hsrc : (s.run.task (3 + i)).mustCancel = true ∨ Event.step (3 + i) true ∈ s.run.queue := by
      cases th
      · exact .inl (by simpa using hth)
      · exact .inr (by rw [hq]; exact List.mem_cons_self)
    rcases hr.inv.tree.cancelSource (3 + i) (by omega) hsrc with
      ⟨g, -, hm, hab⟩ | ⟨g, hg, hown, hab⟩
    · rw [hr.member_database hi hm, hr.not_aborting] at hab
      cases hab
    · -- an owner checks its group until it ends
      rcases (hr.inv.tree.owner g hg).2.2 with hph' | hend'
      · rw [hown] at hph'
        rcases hph with hph | ⟨o, hph⟩ <;> rw [hph] at hph' <;> cases hph'
      · rw [hown, hend] at hend'
        cases hend'

/-- **Only the note of the first failing database's task can come first.**  The note of a
task that failed because a column task failed was queued in round `R + 3` at the earliest.
The note of one whose tables failed was queued in round `R + 1` or `R + 2`, as its question
failed at once or after yielding, and the task of `k` is noted no later: its question
failed at once if any did, and of those whose questions yield alike it is ahead of the
later ones. -/
theorem front_note (hr : Race R dbs S k s) (hk : FirstFailing S.source dbs k) {x : Nat}
    (hq : s.run.queue = .childDone 0 x :: rest) (hh : s.stamps = h :: hs) {f : Failure}
    (hx : (s.run.task x).ending = some (.failed f)) : x = 3 + k := by
  have hkn := hk.lt
  have hm := marked_cons hq hh
  have hfit := hr.fits_head hq hh
  obtain ⟨-, -, hmem, -⟩ := hr.inv.front_childDone hq
  obtain ⟨i, hi, rfl⟩ := hr.database_of_member hmem
  -- the task of `k` is noted by round `R + 2`, and by `R + 1` if its question fails at once
  obtain ⟨lfk, hlfk⟩ := Option.isSome_iff_exists.1 hk.fails
  have hck := hr.chains k hk.lt lfk hlfk
  have hkle : h ≤ R + chainDepth (tablesYield S.source dbs[k]) (s.run.task (3 + k)) :=
    hr.ordered.head_le hh _ (List.of_mem_zip hck.mem).2
  have hdk := chainDepth_le (tablesYield S.source dbs[k]) (s.run.task (3 + k))
  cases f with
  | group fs =>
    have h3 := hfit.2.2 rfl fs hx
    split at hdk <;> omega
  | raise lf =>
    have hlf := hr.raised i hi lf hx
    obtain ⟨hσ, htail⟩ := (hr.chains i hi lf hlf).note_front (by simp [hx]) hm
    by_contra hne
    have hik : i ≠ k := fun hik => hne (by rw [hik])
    by_cases hy : tablesYield S.source dbs[i] = tablesYield S.source dbs[k]
    · rcases Nat.lt_or_gt_of_ne hik with hlt | hgt
      · have hnone := hk.first i hi hlt hy
        rw [hlf] at hnone
        cases hnone
      · -- the task of `i` has come as far as any can, so the task of `k` is ahead in the queue
        obtain ⟨hdep, hsub⟩ := hr.lockstep i hi hk.lt hgt (by simp [hlf]) hy
        have hdi := chainDepth_of_isSome (t := s.run.task (3 + i)) (by simp [hx])
          (tablesYield S.source dbs[k])
        have hsub' := hsub (le_antisymm hdep (hdi ▸ hdk))
        rw [chainEvent_of_isSome (t := s.run.task (3 + i)) (by simp [hx]) (3 + i), hq] at hsub'
        have hne' : Event.childDone 0 (3 + i) ≠ chainEvent (3 + k) (s.run.task (3 + k)) := by
          unfold chainEvent
          split
          · simp only [ne_eq, Event.childDone.injEq, true_and]
            omega
          · simp
        have hrest : Event.childDone 0 (3 + i) ∈ rest := by
          have hpair : List.Sublist [chainEvent (3 + k) (s.run.task (3 + k)), .childDone 0 (3 + i)]
              (rest ++ []) := sublist_pair_turn hsub' hne'
          simpa using hpair.subset (List.mem_cons_of_mem _ (List.mem_singleton_self _))
        obtain ⟨σ, hσ'⟩ := exists_mem_zip (hr.ordered.tail_length hq hh) hrest
        simpa [Event.isNoteOf] using htail _ hσ'
    · -- the questions yield differently: the task of `k` failed at once, that of `i` after yielding
      have hyk : tablesYield S.source dbs[k] = false := by
        cases hyk : tablesYield S.source dbs[k]
        · rfl
        · exact absurd ((hk.atOnce hyk i hi (by simp [hlf])).trans hyk.symm) hy
      have hyi : tablesYield S.source dbs[i] = true := by
        cases hyi : tablesYield S.source dbs[i]
        · exact absurd (hyi.trans hyk.symm) hy
        · rfl
      rw [hyi] at hσ
      rw [hyk] at hkle hdk
      simp only [if_true, if_false, Bool.false_eq_true] at hσ hdk
      omega

/-! ## A turn of the race -/

/-- What a turn of the race may queue, for the event `e` it handles in `r`: for a step, the
task's next step, the first steps of new tasks, the note of the task's end and the cancels
of the members of the group it checks; for the note of a column task's end, steps of the
group's owner and live members. -/
def Queues (r : Run) : Event → Event → Prop
  | .step j _, y => y = .step j false ∨ (∃ w, r.tasks.size ≤ w ∧ y = .step w false) ∨
      (∃ g, r.Member g j ∧ (r.task j).ending = none ∧ y = .childDone g j) ∨
      ∃ g, (r.task j).phase = .grouped g ∧ ∃ m ∈ (r.group g).live, y = .step m true
  | .childDone g _, y => g ≠ 0 ∧ ∃ w th, y = .step w th ∧
      (w = (r.group g).owner ∨ w ∈ (r.group g).live)
  | _, _ => False

/-- **What a turn of the race queues.**  A note in the loader's group of a task that did
not fail queues nothing: the task of the first failing database is still live. -/
theorem appends (hr : Race R dbs S k s) (hk : FirstFailing S.source dbs k)
    (hq : s.run.queue = e :: rest) (hh : s.stamps = h :: hs) (he : e ≠ .childDone 0 (3 + k)) :
    Run.Appends (Queues s.run e) ({ s.run with queue := rest } : Run)
      (({ s.run with queue := rest } : Run).handle e) := by
  have hfit := hr.fits_head hq hh
  cases e with
  | step x th => exact hr.inv.appended_step hq hfit.2.1
  | childDone g c =>
    by_cases hg : g = 0
    · subst hg
      have hc : c ≠ 3 + k := fun hc => he (by rw [hc])
      exact .of_queue (Run.queue_childDone_of_live (r := { s.run with queue := rest })
        hr.loaderGroup.1 (hr.mem_live hk) (Ne.symm hc)
        fun fl hfl => hc (hr.front_note hk hq hh hfl))
    · exact (hr.inv.appended_note hq).mono fun y hy => ⟨hg, hy⟩
  | forget => exact hfit.elim
  | relay => exact hfit.elim

/-- **What a turn of the race queues is in its round.**  A step queues steps of database
and column tasks, and the note of a column task's end comes a round after the column
task's step, so from round `R + 2`.  A database task that fails with the failures of its
group had them recorded from round `R + 2` on, so its note comes from round `R + 3`. -/
theorem fits_new (hr : Race R dbs S k s) (hq : s.run.queue = e :: rest)
    (hh : s.stamps = h :: hs) {y : Event} (hy : Queues s.run e y) :
    Fits R dbs (({ s.run with queue := rest } : Run).handle e) (y, h + 1) := by
  have hfit := hr.fits_head hq hh
  have hR := hr.le_head hq hh
  have hsize := hr.size
  cases e with
  | step j th =>
    obtain ⟨-, hj, hcol⟩ := hfit
    rcases hy with rfl | ⟨w, hw, rfl⟩ | ⟨g, hm, hend, rfl⟩ | ⟨g, hg, m, hm, rfl⟩
    · exact ⟨by omega, hj, fun hjn => by have := hcol hjn; omega⟩
    · exact ⟨by omega, by omega, fun _ => by omega⟩
    · refine ⟨by omega, fun hg => ?_, fun hg fs hfs => ?_⟩
      · -- a member of a group other than the loader's is a column task
        have hjn : 3 + dbs.length ≤ j := by
          by_contra hjn
          have hj' : 3 + (j - 3) = j := by omega
          rw [← hj'] at hm
          exact hg (hr.member_database (by omega) hm)
        have := hcol hjn
        omega
      · -- a database task that fails with its group's failures
        subst hg
        obtain ⟨i, hi, rfl⟩ := hr.database_of_member hm
        rcases hr.inv.database_failed rest (hr.databases i hi).1 hend hfs with
          ⟨lf, hlf, -⟩ | ⟨g', hph, -, herr⟩
        · cases hlf
        · have hg' : g' ≠ 0 := by
            rintro rfl
            have hown := (hr.inv.tree.grouped (3 + i) 0 (by omega) hph).2
            rw [hr.loaderGroup.2] at hown
            omega
          have := hr.recorded g' hg' herr
          have := hr.now_le hh
          omega
    · -- the cancels of the members of the group the task checks
      have hg' := hr.inv.tree.grouped j g (by omega) hg
      have hlive := ((hr.inv.tree.live g hg'.1).2 m hm).2.1
      rw [hg'.2] at hlive
      exact ⟨by omega, by omega, fun _ => by omega⟩
  | childDone g c =>
    obtain ⟨hg, w, th, rfl, hw⟩ := hy
    have h2 := hfit.2.1 hg
    obtain ⟨hgs, -, -, -⟩ := hr.inv.tree.childDone g c (by rw [hq]; exact List.mem_cons_self)
    obtain ⟨hown, -, hph⟩ := hr.inv.tree.owner g hgs
    -- the owner of a group other than the loader's is not the loader
    have hown3 : 3 ≤ (s.run.group g).owner := by
      by_contra hlt
      have h2' : (s.run.group g).owner = 2 := by omega
      rw [h2'] at hph
      rcases hph with hph | hend
      · rw [hr.loader.2] at hph
        injection hph with hg0
        exact hg hg0.symm
      · simp [hr.loader.1] at hend
    have hw3 : 3 ≤ w := by
      rcases hw with rfl | hw
      · exact hown3
      · have := ((hr.inv.tree.live g hgs).2 w hw).2.1
        omega
    exact ⟨by omega, hw3, fun _ => by omega⟩
  | forget => exact hy.elim
  | relay => exact hy.elim

/-- No note of the end of a task that has not ended is queued. -/
theorem no_note (hr : Race R dbs S k s) (hq : s.run.queue = e :: rest) {x : Nat} (hend : (s.run.task x).ending = none) :
    ∀ p ∈ rest.zip hs, p.1.isNoteOf 0 x = false := fun p hp => by
  cases hp' : p.1.isNoteOf 0 x
  · rfl
  · have hmem : p.1 ∈ s.run.queue := by
      rw [hq]
      exact List.mem_cons_of_mem _ (List.of_mem_zip hp).1
    rw [Event.eq_of_isNoteOf hp'] at hmem
    have := (hr.inv.tree.childDone 0 x hmem).2.2.2
    simp [hend] at this

/-- A turn queues a note of the end of a task only for a task it steps and that had not
ended. -/
theorem Queues.isNoteOf {r : Run} {x : Nat} {y : Event} (hy : Queues r e y)
    (hx : (r.task x).ending.isSome) : y.isNoteOf 0 x = false := by
  cases e with
  | step j th =>
    rcases hy with rfl | ⟨w, -, rfl⟩ | ⟨g, -, hend, rfl⟩ | ⟨g, -, m, -, rfl⟩
    · rfl
    · rfl
    · simp only [Event.isNoteOf, Bool.and_eq_false_iff, beq_eq_false_iff_ne]
      refine .inr fun hjx => ?_
      subst hjx
      simp [hend] at hx
    · rfl
  | childDone g c =>
    obtain ⟨-, w, th, rfl, -⟩ := hy
    rfl
  | forget => exact hy.elim
  | relay => exact hy.elim

/-- A turn that does not step a database task at its start or holding its answer queues
no step of it: it owns no group, and is a member of the loader's group only, whose owner
does not step in the race. -/
theorem Queues.isStepOf (hr : Race R dbs S k s) (hq : s.run.queue = e :: rest)
    (hh : s.stamps = h :: hs) {x : Nat} (hx : ∀ th, e ≠ .step x th)
    (hlt : x < s.run.tasks.size) (hm : s.run.Member 0 x) (hend : (s.run.task x).ending = none)
    (hph : (s.run.task x).phase = .start ∨ ∃ o, (s.run.task x).phase = .gotNames o)
    {y : Event} (hy : Queues s.run e y) : y.isStepOf x = false := by
  have hfit := hr.fits_head hq hh
  cases e with
  | step j th =>
    have hjx : j ≠ x := fun hjx => hx th (by rw [hjx])
    rcases hy with rfl | ⟨w, hw, rfl⟩ | ⟨g, -, -, rfl⟩ | ⟨g, hg, m, hm', rfl⟩
    · simpa [Event.isStepOf] using hjx
    · simp only [Event.isStepOf, beq_eq_false_iff_ne]
      omega
    · rfl
    · -- a member of the group the stepped task checks is not a member of the loader's group
      simp only [Event.isStepOf, beq_eq_false_iff_ne]
      rintro rfl
      have hg' := hr.inv.tree.grouped j g (by have := hfit.2.1; omega) hg
      have hg0 : g = 0 := Run.Member.unique ((hr.inv.tree.live g hg'.1).2 m hm').1 hm
      subst hg0
      have hj2 := hg'.2
      rw [hr.loaderGroup.2] at hj2
      have := hfit.2.1
      omega
  | childDone g c =>
    obtain ⟨hg, w, th, rfl, hw⟩ := hy
    simp only [Event.isStepOf, beq_eq_false_iff_ne]
    rintro rfl
    obtain ⟨hgs, -, -, -⟩ := hr.inv.tree.childDone g c (by rw [hq]; exact List.mem_cons_self)
    rcases hw with hown | hlive
    · -- the task would check the group it owns, or would have ended
      rcases (hr.inv.tree.owner g hgs).2.2 with hph' | hend'
      · rw [← hown] at hph'
        rcases hph with hph | ⟨o, hph⟩ <;> rw [hph] at hph' <;> cases hph'
      · rw [← hown, hend] at hend'
        cases hend'
    · exact hg (Run.Member.unique ((hr.inv.tree.live g hgs).2 w hlive).1 hm)
  | forget => exact hy.elim
  | relay => exact hy.elim

theorem endingFailures_of_ne {en : Option Ending} (h : ∀ fl, en ≠ some (.failed fl)) :
    Run.endingFailures en = [] := by
  unfold Run.endingFailures
  split
  · next fl => exact absurd rfl (h fl)
  · rfl

/-- The events a turn leaves behind that `P` picks, and the new ones. -/
theorem filter_turn (hr : Race R dbs S k s) (hq : s.run.queue = e :: rest)
    (hh : s.stamps = h :: hs) {new : List Event}
    (hnew : (({ s.run with queue := rest } : Run).handle e).queue = rest ++ new)
    (P : Event × Nat → Bool) :
    s.turn.marked.filter P = (rest.zip hs).filter P ++ (new.map fun y => (y, h + 1)).filter P := by
  rw [marked_turn hq hh (hr.ordered.tail_length hq hh) hnew, List.filter_append]

/-- An event the turn leaves behind keeps its round: the round of a note depends on the
ending of the task it notes, which had ended. -/
theorem fits_left (hr : Race R dbs S k s) (hq : s.run.queue = e :: rest) {y : Event} {σ : Nat}
    (hmem : y ∈ rest) (hfit : Fits R dbs s.run (y, σ)) :
    Fits R dbs (({ s.run with queue := rest } : Run).handle e) (y, σ) := by
  cases y with
  | step => exact hfit
  | childDone g c =>
    obtain ⟨h₁, h₂, h₃⟩ := hfit
    refine ⟨h₁, h₂, fun hg fs hfs => h₃ hg fs ?_⟩
    have hended := (hr.inv.tree.childDone g c (by rw [hq]; exact List.mem_cons_of_mem _ hmem)).2.2.2
    rcases Run.ending_handle (r := { s.run with queue := rest }) e c with hsame | ⟨-, hnone⟩
    · exact hsame.symm.trans hfs
    · change (s.run.task c).ending = none at hnone
      simp [hnone] at hended
  | forget => exact hfit.elim
  | relay => exact hfit.elim

/-- **A step of a task whose tables fail takes it one round deeper.**  The step was queued
once, in the round of the task's depth, and was no cancel; the turn queues only the event
by which the task goes on. -/
theorem chain_stepped (hr : Race R dbs S k s) {i : Nat} {th : Bool} {new : List Event}
    (hq : s.run.queue = .step (3 + i) th :: rest) (hh : s.stamps = h :: hs)
    (hnew : (({ s.run with queue := rest } : Run).handle (.step (3 + i) th)).queue = rest ++ new)
    (hi : i < dbs.length) {lf : LoadFailure} (hlf : tablesFailure S.source dbs[i] = some lf)
    (hend : (s.run.task (3 + i)).ending = none) :
    new = [chainEvent (3 + i) (s.turn.run.task (3 + i))] ∧
      chainDepth (tablesYield S.source dbs[i]) (s.turn.run.task (3 + i)) =
        chainDepth (tablesYield S.source dbs[i]) (s.run.task (3 + i)) + 1 ∧
      Chain R s.turn (3 + i) (tablesYield S.source dbs[i]) lf := by
  have hc := hr.chains i hi lf hlf
  obtain ⟨rfl, hσ, htail⟩ := hc.step_front hend (marked_cons hq hh)
  have hrun : s.turn.run = ({ s.run with queue := rest } : Run).handle (.step (3 + i) false) := by
    rw [turn_eq hq hh hnew]
  have hfilter := filter_turn hr hq hh hnew
  have hrole := (hr.databases i hi).1
  -- the task's one callback notes its end to the loader's group
  have hcbs : (s.run.task (3 + i)).callbacks.map (Callback.event (3 + i)) =
      [.childDone 0 (3 + i)] := by
    have hcb : (s.run.task (3 + i)).callbacks = [.childDone 0] := (hr.databases i hi).2
    rw [hcb]
    rfl
  -- the turn queues no step of the task, and no note of it before it ends
  have hnostep : (rest.zip hs).filter (fun p => p.1.isStepOf (3 + i)) = [] :=
    List.filter_eq_nil_iff.2 fun p hp => by simp [htail p hp]
  have hnonote : (rest.zip hs).filter (fun p => p.1.isNoteOf 0 (3 + i)) = [] :=
    List.filter_eq_nil_iff.2 fun p hp => by simp [hr.no_note hq hend p hp]
  cases hc with
  | start _ hph _ =>
    have hcalm := hr.calm hi hend (.inl hph) hq
    have hR : h = R := by simpa [chainDepth, hend, hph] using hσ
    by_cases hy : tablesYield S.source dbs[i] = true
    · -- the question yields: the task holds its answer, and its next step is queued
      obtain ⟨hq', hph', hend'⟩ := hr.inv.database_yields rest hrole hend hcalm hph hy
      have hnew' : new = [.step (3 + i) false] := List.append_cancel_left (hnew.symm.trans hq')
      subst hnew'
      rw [← hrun] at hph' hend'
      refine ⟨by rw [chainEvent_of_none hend'], by simp [chainDepth, hend', hph', hend, hph], ?_⟩
      refine .waiting hy hend' ⟨_, hph'⟩ ?_
      rw [hfilter, hnostep]
      simp [Event.isStepOf, hR]
    · -- the question fails at once
      have hy' : tablesYield S.source dbs[i] = false := by simpa using hy
      obtain ⟨hq', hend'⟩ := hr.inv.database_fails rest hrole hend hcalm hlf (.inl ⟨hph, hy'⟩)
      rw [hcbs] at hq'
      have hnew' : new = [.childDone 0 (3 + i)] := List.append_cancel_left (hnew.symm.trans hq')
      subst hnew'
      rw [← hrun] at hend'
      refine ⟨by rw [chainEvent_of_isSome (by simp [hend'])],
        by simp [chainDepth, hend', hend, hph, hy'], ?_⟩
      refine .ended hend' ?_
      rw [hfilter, hnonote]
      simp [Event.isNoteOf, hR, hy']
  | waiting hy _ hph _ =>
    -- the question yielded: the answer fails the task
    obtain ⟨o, ho⟩ := hph
    have hcalm := hr.calm hi hend (.inr ⟨o, ho⟩) hq
    have hR : h = R + 1 := by simpa [chainDepth, hend, ho] using hσ
    obtain ⟨hq', hend'⟩ := hr.inv.database_fails rest hrole hend hcalm hlf (.inr ⟨o, ho⟩)
    rw [hcbs] at hq'
    have hnew' : new = [.childDone 0 (3 + i)] := List.append_cancel_left (hnew.symm.trans hq')
    subst hnew'
    rw [← hrun] at hend'
    refine ⟨by rw [chainEvent_of_isSome (by simp [hend'])],
      by simp [chainDepth, hend', hend, ho, hy], ?_⟩
    refine .ended hend' ?_
    rw [hfilter, hnonote]
    simp [Event.isNoteOf, hR, hy]
  | ended hend₀ _ =>
    rw [hend] at hend₀
    cases hend₀

/-- **A turn that does not step a task whose tables fail, while the task is on its way,
leaves it where it stands**, and queues nothing of it. -/
theorem chain_unmoved (hr : Race R dbs S k s) (hk : FirstFailing S.source dbs k)
    {new : List Event} (hq : s.run.queue = e :: rest) (hh : s.stamps = h :: hs)
    (he : e ≠ .childDone 0 (3 + k))
    (hnew : (({ s.run with queue := rest } : Run).handle e).queue = rest ++ new)
    (hnewQ : ∀ y ∈ new, Queues s.run e y) {i : Nat} (hi : i < dbs.length) {lf : LoadFailure}
    (hlf : tablesFailure S.source dbs[i] = some lf)
    (hx : ∀ th, e = .step (3 + i) th → (s.run.task (3 + i)).ending.isSome) :
    (s.turn.run.task (3 + i)).ending = (s.run.task (3 + i)).ending ∧
      (s.turn.run.task (3 + i)).phase = (s.run.task (3 + i)).phase ∧
      Chain R s.turn (3 + i) (tablesYield S.source dbs[i]) lf := by
  have hrun : s.turn.run = ({ s.run with queue := rest } : Run).handle e := by
    rw [turn_eq hq hh hnew]
  have hsize := hr.size
  have hlt : 3 + i < s.run.tasks.size := by omega
  have hsame : (s.turn.run.task (3 + i)).ending = (s.run.task (3 + i)).ending ∧
      (s.turn.run.task (3 + i)).phase = (s.run.task (3 + i)).phase := by
    rw [hrun]
    by_cases hst : ∃ th, e = .step (3 + i) th
    · -- the step of a task that has ended does nothing
      obtain ⟨th, rfl⟩ := hst
      have hnone : ({ s.run with queue := rest } : Run).handle (.step (3 + i) th) =
          { s.run with queue := rest } :=
        Run.stepTask_of_ended (r := { s.run with queue := rest }) (hx th rfl) th
      rw [hnone]
      exact ⟨rfl, rfl⟩
    · have hne : some (3 + i) ≠ Run.Event.stepped e := fun hs' =>
        hst (Run.Event.eq_step_of_stepped hs'.symm)
      exact Run.unmoved_handle (r := { s.run with queue := rest }) e hlt hne
  refine ⟨hsame.1, hsame.2, ?_⟩
  have hfilter := filter_turn hr hq hh hnew
  have hm := marked_cons hq hh
  -- a task on its way keeps its one step: the turn neither handles nor queues one
  have hsteps : (s.run.task (3 + i)).ending = none →
      ((s.run.task (3 + i)).phase = .start ∨ ∃ o, (s.run.task (3 + i)).phase = .gotNames o) →
      s.turn.marked.filter (fun p => p.1.isStepOf (3 + i)) =
        s.marked.filter (fun p => p.1.isStepOf (3 + i)) := fun hend hph => by
    have hnot : ∀ th, e ≠ .step (3 + i) th := fun th he' => by simpa [hend] using hx th he'
    have hhead : ¬ e.isStepOf (3 + i) = true := fun hs' => by
      obtain ⟨th, he'⟩ := Event.eq_of_isStepOf hs'
      exact hnot th he'
    have hnew' : (new.map fun y => (y, h + 1)).filter (fun p => p.1.isStepOf (3 + i)) = [] :=
      List.filter_eq_nil_iff.2 fun p hp => by
        obtain ⟨y, hy, rfl⟩ := List.mem_map.1 hp
        simp [Queues.isStepOf hr hq hh hnot hlt (hr.databases i hi).2 hend hph (hnewQ y hy)]
    rw [hfilter, hm, List.filter_cons_of_neg (by simpa using hhead), hnew', List.append_nil]
  cases hr.chains i hi lf hlf with
  | start hend hph hf =>
    exact .start (hsame.1.trans hend) (hsame.2.trans hph) ((hsteps hend (.inl hph)).trans hf)
  | waiting hy hend hph hf =>
    obtain ⟨o, ho⟩ := hph
    exact .waiting hy (hsame.1.trans hend) ⟨o, hsame.2.trans ho⟩
      ((hsteps hend (.inr ⟨o, ho⟩)).trans hf)
  | ended hend hf =>
    refine .ended (hsame.1.trans hend) ?_
    -- the head is not the task's note, which would end the race
    have hhead : ¬ e.isNoteOf 0 (3 + i) = true := fun hn => by
      have he' := Event.eq_of_isNoteOf hn
      subst he'
      exact he (by rw [hr.front_note hk hq hh hend])
    have hnew' : (new.map fun y => (y, h + 1)).filter (fun p => p.1.isNoteOf 0 (3 + i)) = [] :=
      List.filter_eq_nil_iff.2 fun p hp => by
        obtain ⟨y, hy, rfl⟩ := List.mem_map.1 hp
        simpa using Queues.isNoteOf (x := 3 + i) (hnewQ y hy) (by simp [hend])
    rw [hm, List.filter_cons_of_neg (by simpa using hhead)] at hf
    rw [hfilter, hf, hnew', List.append_nil]

/-- **A task ahead stays ahead.**  A step of the task ahead takes it deeper; a step of the
task behind takes it deeper only if it was behind, and queues its event last; any other
turn leaves both where they stand, their events in order. -/
theorem ahead_turn (hr : Race R dbs S k s) (hk : FirstFailing S.source dbs k)
    {new : List Event} (hq : s.run.queue = e :: rest) (hh : s.stamps = h :: hs)
    (he : e ≠ .childDone 0 (3 + k))
    (hnew : (({ s.run with queue := rest } : Run).handle e).queue = rest ++ new)
    (hnewQ : ∀ y ∈ new, Queues s.run e y) {i : Nat} (hi : i < dbs.length) (hki : k < i)
    (hfi : (tablesFailure S.source dbs[i]).isSome)
    (hy : tablesYield S.source dbs[i] = tablesYield S.source dbs[k]) :
    Ahead s.turn (tablesYield S.source dbs[k]) (3 + k) (3 + i) := by
  have hkn := hk.lt
  obtain ⟨lfk, hlfk⟩ := Option.isSome_iff_exists.1 hk.fails
  obtain ⟨lfi, hlfi⟩ := Option.isSome_iff_exists.1 hfi
  obtain ⟨hdep, hsub⟩ := hr.lockstep i hi hkn hki hfi hy
  have hqueue : s.turn.run.queue = rest ++ new := by rw [turn_eq hq hh hnew]; exact hnew
  by_cases hsa : ∃ th, e = .step (3 + k) th ∧ (s.run.task (3 + k)).ending = none
  · -- the task ahead goes one round deeper, the one behind stays
    obtain ⟨th, rfl, henda⟩ := hsa
    obtain ⟨-, hda, -⟩ := hr.chain_stepped hq hh hnew hkn hlfk henda
    obtain ⟨hbe, hbp, -⟩ := hr.chain_unmoved hk hq hh he hnew hnewQ hi hlfi
      fun th' h' => by injection h' with h'; omega
    have hdb := chainDepth_congr hbe hbp (tablesYield S.source dbs[k])
    exact ⟨by omega, fun heq => by omega⟩
  by_cases hsb : ∃ th, e = .step (3 + i) th ∧ (s.run.task (3 + i)).ending = none
  · -- the task behind goes one round deeper: it was a round behind, and its event is queued last
    obtain ⟨th, rfl, hendb⟩ := hsb
    obtain ⟨hnewb, hdb, -⟩ := hr.chain_stepped hq hh hnew hi hlfi hendb
    rw [hy] at hdb
    obtain ⟨hae, hap, -⟩ := hr.chain_unmoved hk hq hh he hnew hnewQ hkn hlfk
      fun th' h' => by injection h' with h'; omega
    have hda := chainDepth_congr hae hap (tablesYield S.source dbs[k])
    have hea := chainEvent_congr hae (3 + k)
    -- the event of the task ahead is not the step of the task behind
    have hne : Event.step (3 + i) th ≠ chainEvent (3 + k) (s.run.task (3 + k)) := by
      unfold chainEvent
      split
      · simp
      · simp only [ne_eq, Event.step.injEq, not_and]
        omega
    have hlt : chainDepth (tablesYield S.source dbs[k]) (s.run.task (3 + i)) <
        chainDepth (tablesYield S.source dbs[k]) (s.run.task (3 + k)) := by
      by_contra hge
      -- level, the task behind would have a second step queued behind the first
      have hs' := hsub (le_antisymm hdep (by omega))
      obtain ⟨rfl, -, htail⟩ :=
        (hr.chains i hi lfi hlfi).step_front hendb (marked_cons hq hh)
      rw [chainEvent_of_none hendb, hq] at hs'
      have hpair : List.Sublist [chainEvent (3 + k) (s.run.task (3 + k)), .step (3 + i) false]
          (rest ++ []) := sublist_pair_turn hs' hne
      have hrest : Event.step (3 + i) false ∈ rest := by
        simpa using hpair.subset (List.mem_cons_of_mem _ (List.mem_singleton_self _))
      obtain ⟨σ, hσ⟩ := exists_mem_zip (hr.ordered.tail_length hq hh) hrest
      simpa [Event.isStepOf] using htail _ hσ
    refine ⟨by omega, fun heq => ?_⟩
    have hmema : chainEvent (3 + k) (s.run.task (3 + k)) ∈ rest := by
      have hmem := (List.of_mem_zip (hr.chains k hkn lfk hlfk).mem).1
      rw [hq] at hmem
      exact (List.mem_cons.1 hmem).resolve_left fun h' => hne h'.symm
    rw [hea, hqueue, hnewb]
    exact (List.singleton_sublist.2 hmema).append (List.Sublist.refl _)
  · -- neither moves, and the turn handles neither's event
    have hxa : ∀ th, e = .step (3 + k) th → (s.run.task (3 + k)).ending.isSome :=
      fun th h' => Option.isSome_iff_ne_none.2 fun hn => hsa ⟨th, h', hn⟩
    have hxb : ∀ th, e = .step (3 + i) th → (s.run.task (3 + i)).ending.isSome :=
      fun th h' => Option.isSome_iff_ne_none.2 fun hn => hsb ⟨th, h', hn⟩
    obtain ⟨hae, hap, -⟩ := hr.chain_unmoved hk hq hh he hnew hnewQ hkn hlfk hxa
    obtain ⟨hbe, hbp, -⟩ := hr.chain_unmoved hk hq hh he hnew hnewQ hi hlfi hxb
    have hda := chainDepth_congr hae hap (tablesYield S.source dbs[k])
    have hdb := chainDepth_congr hbe hbp (tablesYield S.source dbs[k])
    have hea := chainEvent_congr hae (3 + k)
    have heb := chainEvent_congr hbe (3 + i)
    refine ⟨by omega, fun heq => ?_⟩
    have hs' := hsub (by omega)
    rw [hq] at hs'
    rw [hea, heb, hqueue]
    refine sublist_pair_turn hs' fun h' => ?_
    -- the handled event would be the step of the task ahead, on its way, or its note
    unfold chainEvent at h'
    split at h'
    · exact he h'
    · next hnone =>
      exact hsa ⟨false, h', by simpa using hnone⟩

/-- **Every turn but the note of the first failing database's task keeps the race on.** -/
theorem turn (hr : Race R dbs S k s) (hk : FirstFailing S.source dbs k)
    (hq : s.run.queue = e :: rest) (hh : s.stamps = h :: hs) (he : e ≠ .childDone 0 (3 + k)) :
    Race R dbs S k s.turn := by
  obtain ⟨new, hnew, hnewQ⟩ := hr.appends hk hq hh he
  have hrun : s.turn.run = ({ s.run with queue := rest } : Run).handle e := by
    rw [turn_eq hq hh hnew]
  have hnow : s.turn.now = h := by rw [turn_eq hq hh hnew]
  have hfit := hr.fits_head hq hh
  have hsize := hr.size
  have hg0 := hr.loaderGroup.1
  -- the turn steps no task below the database tasks
  have hst : ∀ j, some j = Run.Event.stepped e → 3 ≤ j := fun j hj => by
    obtain ⟨th, rfl⟩ := Run.Event.eq_step_of_stepped hj.symm
    exact hfit.2.1
  have hgroups := hr.inv.front_groups hq
  refine
    { inv := hrun ▸ hr.inv.handle hq
      ordered := hr.ordered.turn hq hh hnew
      loader := ?_
      unrecorded := ?_
      size := ?_
      databases := fun i hi => ?_
      others := fun c g hc hm => ?_
      events := fun p hp => ?_
      recorded := fun g hg herr => ?_
      raised := fun i hi lf hx => ?_
      chains := fun i hi lf hlf => ?_
      lockstep := fun i hi _ hki hfi hy => hr.ahead_turn hk hq hh he hnew hnewQ hi hki hfi hy }
  · -- the loader still waits on its group
    rw [hrun]
    have h2 : some 2 ≠ Run.Event.stepped e := fun h2 => by
      have := hst 2 h2
      omega
    obtain ⟨hend, hph⟩ := Run.unmoved_handle (r := { s.run with queue := rest }) e
      (show 2 < s.run.tasks.size by omega) h2
    exact ⟨hend.trans hr.loader.1, hph.trans hr.loader.2⟩
  · -- the loader's group notes no failure but that of the first failing database's task
    rw [hrun]
    rcases Run.errors_handle (r := { s.run with queue := rest }) e hgroups 0 with
      herr | ⟨c, rfl, herr⟩
    · exact herr.trans hr.unrecorded
    · have hc : c ≠ 3 + k := fun hc => he (by rw [hc])
      rw [herr]
      change (s.run.group 0).errors ++ _ = []
      rw [hr.unrecorded, List.nil_append]
      exact endingFailures_of_ne fun fl hfl => hc (hr.front_note hk hq hh hfl)
  · rw [hrun]
    exact le_trans hsize (Run.size_handle (r := { s.run with queue := rest }) e)
  · -- a database task keeps its role and its group
    rw [hrun]
    have hlt : 3 + i < s.run.tasks.size := by omega
    refine ⟨((Run.phase_handle (r := { s.run with queue := rest }) e hlt).1).trans
      (hr.databases i hi).1, ?_⟩
    obtain ⟨g, -, hm⟩ := (hr.inv.handle hq).tree.sub (3 + i) (by omega)
      (lt_of_lt_of_le hlt (Run.size_handle (r := { s.run with queue := rest }) e))
    have hm0 := hr.member_database hi
      ((Run.callbacks_handle (r := { s.run with queue := rest }) e hlt).member hm)
    rwa [hm0] at hm
  · -- a later task is a member of a group the turn started, or of the group it was in
    rw [hrun] at hm
    by_cases hlt : c < s.run.tasks.size
    · exact hr.others c g hc ((Run.callbacks_handle (r := { s.run with queue := rest }) e hlt).member hm)
    · have := Run.fresh_handle (r := { s.run with queue := rest }) e
        (show s.run.tasks.size ≤ c by omega) hm
      change s.run.groups.size ≤ g at this
      omega
  · -- every event is in its round
    obtain ⟨y, σ⟩ := p
    rw [hrun]
    rcases (mem_marked_turn hq hh (hr.ordered.tail_length hq hh) hnew).1 hp with hold | ⟨hy, rfl⟩
    · exact hr.fits_left hq (List.of_mem_zip hold).1
        (hr.events _ (by rw [marked_cons hq hh]; exact List.mem_cons_of_mem _ hold))
    · exact hr.fits_new hq hh (hnewQ y hy)
  · -- a group other than the loader's records a failure only by a note from round `R + 2`
    rw [hnow]
    rw [hrun] at herr
    rcases Run.errors_handle (r := { s.run with queue := rest }) e hgroups g with
      hsame | ⟨c, rfl, -⟩
    · have := hr.recorded g hg (by rwa [hsame] at herr)
      have := hr.now_le hh
      omega
    · exact hfit.2.1 hg
  · -- a database task that fails with the failure of its tables failed at its step
    rw [hrun] at hx
    rcases Run.ending_handle (r := { s.run with queue := rest }) e (3 + i) with hsame | ⟨hsj, hnone⟩
    · exact hr.raised i hi lf (hsame.symm.trans hx)
    · obtain ⟨th, rfl⟩ := Run.Event.eq_step_of_stepped hsj.symm
      rcases hr.inv.database_failed rest (hr.databases i hi).1 hnone hx with
        ⟨lf', hlf', htf⟩ | ⟨g, -, hgf, -⟩
      · injection hlf' with hl
        rw [hl]
        exact htf
      · cases hgf
  · -- a database task whose tables fail goes on in the race
    by_cases hsx : ∃ th, e = .step (3 + i) th ∧ (s.run.task (3 + i)).ending = none
    · obtain ⟨th, rfl, hend⟩ := hsx
      exact (hr.chain_stepped hq hh hnew hi hlf hend).2.2
    · exact (hr.chain_unmoved hk hq hh he hnew hnewQ hi hlf fun th h' =>
        Option.isSome_iff_ne_none.2 fun hn => hsx ⟨th, h', hn⟩).2.2

end Race


end Stamped

end SqlAssist.Schema
