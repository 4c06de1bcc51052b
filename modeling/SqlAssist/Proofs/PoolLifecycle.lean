import SqlAssist.Postgres.Shared

/-!
# The pool lifecycle under interleaved calls

Whatever order the scheduler runs the adapter's calls in, and wherever they are cancelled,
the adapter keeps one invariant (`Shared.Inv`): the lock is held exactly while one fetch
awaits a new pool, the adapter has no pool meanwhile, the queue holds the fetches queued
for the lock, the adapter's pool is open, a pool being closed is no longer the adapter's,
and every error raised is a failure to connect or a failed query.

Each step keeps it because each of the adapter's functions does (one lemma each), and a
fetch that holds the lock within a step is described once (`Shared.Holding`).
-/

namespace SqlAssist.Postgres

open Schema

namespace Stage

/-- Whether a call waits at the lock: queued for it, or holding it while a new pool opens. -/
def atLock : Stage → Bool
  | .queued _ | .opening _ => true
  | _ => false

theorem ne_queued_of_atLock {s : Stage} (h : s.atLock = false) (key : FetchKey) :
    s ≠ .queued key := by
  rintro rfl
  simp [atLock] at h

theorem ne_opening_of_atLock {s : Stage} (h : s.atLock = false) (key : FetchKey) :
    s ≠ .opening key := by
  rintro rfl
  simp [atLock] at h

/-- Whether a call is querying or has ended: it waits neither at the lock nor for a pool to
open or close. -/
def calm : Stage → Bool
  | .querying _ _ | .ended _ => true
  | _ => false

end Stage

/-- Setting one call's stage changes whether a call's stage has a property only where the
old or the new stage has it. -/
theorem update_stage_iff {f : Nat → Stage} {i : Nat} {s : Stage} (P : Stage → Prop)
    (hold : ¬ P (f i)) (hnew : ¬ P s) (j : Nat) : P (Function.update f i s j) ↔ P (f j) := by
  by_cases hj : j = i
  · subst hj
    rw [Function.update_self]
    exact iff_of_false hnew hold
  · rw [Function.update_of_ne hj]

namespace Shared

/-! ## The invariant -/

/-- What a stage says of the adapter beyond the lock and the queue: a pool being closed has
been opened and is no longer the adapter's, and an error a call raised is a failure to
connect or a failed query. -/
def Fits (st : Shared) : Stage → Prop
  | .closing p => p < st.closed.length ∧ st.pool ≠ some p
  | .ended (.raised e) =>
    ∃ err, e = st.settings.connectFailure err ∨ e = st.settings.queryFailure err
  | _ => True

@[simp] theorem fits_setStage (st : Shared) (i : Nat) (s : Stage) :
    (st.setStage i s).Fits = st.Fits := rfl

@[simp] theorem fits_ask (st : Shared) (r : PoolRequest) : (st.ask r).Fits = st.Fits := rfl

/-- What holds of the adapter between any two steps of any run. -/
structure Inv (st : Shared) : Prop where
  /-- The lock is held exactly while a fetch awaits a new pool. -/
  locked_iff : st.locked = true ↔ ∃ i key, st.stage i = .opening key
  /-- At most one fetch awaits a new pool. -/
  opening_unique : ∀ i j k k', st.stage i = .opening k → st.stage j = .opening k' → i = j
  /-- While a fetch awaits a new pool, the adapter has none. -/
  pool_of_opening : ∀ i key, st.stage i = .opening key → st.pool = none
  /-- The queue holds the queued fetches, each once. -/
  mem_queue : ∀ i, i ∈ st.queue ↔ ∃ key, st.stage i = .queued key
  queue_nodup : st.queue.Nodup
  /-- Numbers no call has yet stand as ended. -/
  fresh : ∀ i, st.made ≤ i → st.stage i = .ended .returned
  /-- The adapter's pool is open. -/
  pool_open : ∀ p, st.pool = some p → st.isOpen p
  fits : ∀ i, st.Fits (st.stage i)

variable {st : Shared} {lib : Library} {i p : Nat} {key : FetchKey} {s : Stage}

theorem inv_start (settings : Settings) (server : Server) : Inv (start settings server) where
  locked_iff := by simp [start]
  opening_unique := by simp [start]
  pool_of_opening _ _ _ := rfl
  mem_queue := by simp [start]
  queue_nodup := List.nodup_nil
  fresh _ _ := rfl
  pool_open := by simp [start]
  fits _ := trivial

theorem Inv.not_opening_of_unlocked (hi : Inv st) (hl : st.locked = false) (j : Nat)
    (k : FetchKey) : st.stage j ≠ .opening k := fun h =>
  Bool.false_ne_true (hl ▸ hi.locked_iff.2 ⟨j, k, h⟩)

theorem Inv.made_gt (hi : Inv st) (h : st.stage i ≠ .ended .returned) : i < st.made :=
  Nat.lt_of_not_le fun hle => h (hi.fresh i hle)

/-- The invariant holds whatever has been asked of the pool library. -/
theorem Inv.ask (hi : Inv st) (r : PoolRequest) : Inv (st.ask r) where
  locked_iff := hi.locked_iff
  opening_unique := hi.opening_unique
  pool_of_opening := hi.pool_of_opening
  mem_queue := hi.mem_queue
  queue_nodup := hi.queue_nodup
  fresh := hi.fresh
  pool_open := hi.pool_open
  fits := hi.fits

/-- The lock's part of the invariant carries over a change that keeps the lock, the pool,
and which calls await a new pool. -/
theorem Inv.lock_congr (hi : Inv st) (st' : Shared) (hl : st'.locked = st.locked)
    (hp : st'.pool = st.pool) (hopen : ∀ j k, st'.stage j = .opening k ↔ st.stage j = .opening k) :
    (st'.locked = true ↔ ∃ i key, st'.stage i = .opening key) ∧
      (∀ i j k k', st'.stage i = .opening k → st'.stage j = .opening k' → i = j) ∧
      (∀ i key, st'.stage i = .opening key → st'.pool = none) := by
  refine ⟨?_, fun j j' k k' hj hj' => ?_, fun j k hj => ?_⟩
  · simp only [hl, hopen]
    exact hi.locked_iff
  · rw [hopen] at hj hj'
    exact hi.opening_unique j j' k k' hj hj'
  · rw [hopen] at hj
    rw [hp]
    exact hi.pool_of_opening j k hj

/-- Setting the stage of a call already made leaves the numbers no call has yet as they
were. -/
theorem fresh_setStage (hf : ∀ j, st.made ≤ j → st.stage j = .ended .returned)
    (hmade : i < st.made) :
    ∀ j, (st.setStage i s).made ≤ j → (st.setStage i s).stage j = .ended .returned := by
  intro j hj
  rw [setStage_made] at hj
  have hji : j ≠ i := by omega
  simp only [setStage_stage, Function.update_of_ne hji]
  exact hf j hj

/-- Setting the stage of a call to one that fits the adapter keeps every stage fitting. -/
theorem fits_stage_setStage (hf : ∀ j, st.Fits (st.stage j)) (hs : st.Fits s) :
    ∀ j, (st.setStage i s).Fits ((st.setStage i s).stage j) := by
  intro j
  rw [fits_setStage, setStage_stage]
  by_cases hji : j = i
  · subst hji
    rw [Function.update_self]
    exact hs
  · rw [Function.update_of_ne hji]
    exact hf j

/-- A call that waits at neither the lock nor a new pool may move to another such stage
that fits the adapter. -/
theorem Inv.setStage (hi : Inv st) (hold : (st.stage i).atLock = false)
    (hnew : s.atLock = false) (hfits : st.Fits s) (hmade : i < st.made) :
    Inv (st.setStage i s) := by
  have hopen (j : Nat) (k : FetchKey) :
      Function.update st.stage i s j = .opening k ↔ st.stage j = .opening k :=
    update_stage_iff (· = .opening k) (Stage.ne_opening_of_atLock hold k)
      (Stage.ne_opening_of_atLock hnew k) j
  have hqueued (j : Nat) (k : FetchKey) :
      Function.update st.stage i s j = .queued k ↔ st.stage j = .queued k :=
    update_stage_iff (· = .queued k) (Stage.ne_queued_of_atLock hold k)
      (Stage.ne_queued_of_atLock hnew k) j
  obtain ⟨hlock, hunique, hpool⟩ := hi.lock_congr (st.setStage i s) rfl rfl
    fun j k => by simp only [setStage_stage, hopen]
  refine ⟨hlock, hunique, hpool, ?_, hi.queue_nodup, fresh_setStage hi.fresh hmade, hi.pool_open,
    fits_stage_setStage hi.fits hfits⟩
  intro j
  simp only [setStage_queue, setStage_stage, hqueued]
  exact hi.mem_queue j

theorem isOpen_lt (h : st.isOpen p) : p < st.closed.length :=
  (List.getElem?_eq_some_iff.1 h).1

/-- A stage fits an adapter with the same settings and no fewer pools opened, whose pool is
not one that the stage is closing. -/
theorem Fits.of_le {st' : Shared} (h : st.Fits s) (hset : st'.settings = st.settings)
    (hlen : st.closed.length ≤ st'.closed.length) (hpool : ∀ p, s = .closing p → st'.pool ≠ some p) :
    st'.Fits s := by
  cases s with
  | closing p => exact ⟨Nat.lt_of_lt_of_le h.1 hlen, hpool p rfl⟩
  | ended e =>
    cases e with
    | raised e =>
      simp only [Fits, hset]
      exact h
    | returned => trivial
    | cancelled => trivial
  | queued _ => trivial
  | opening _ => trivial
  | querying _ _ => trivial

theorem fits_queryEnd (st : Shared) (key : FetchKey) : st.Fits (.ended (st.queryEnd key)) := by
  unfold queryEnd
  split
  · exact ⟨_, Or.inr rfl⟩
  · trivial

/-! ## What each of the adapter's functions keeps -/

/-- The invariant holds once one more call number is taken. -/
theorem Inv.next (hi : Inv st) : Inv { st with made := st.made + 1 } where
  locked_iff := hi.locked_iff
  opening_unique := hi.opening_unique
  pool_of_opening := hi.pool_of_opening
  mem_queue := hi.mem_queue
  queue_nodup := hi.queue_nodup
  fresh j hj := hi.fresh j (Nat.le_of_succ_le hj)
  pool_open := hi.pool_open
  fits := hi.fits

/-- A fetch made while the lock is held, or while others are queued, queues last. -/
theorem Inv.enqueue (hi : Inv st) (key : FetchKey) :
    Inv ({ st with made := st.made + 1, queue := st.queue ++ [st.made] }.setStage st.made
      (.queued key)) := by
  have hold := hi.fresh st.made (Nat.le_refl _)
  have hopen (j : Nat) (k : FetchKey) :
      Function.update st.stage st.made (.queued key) j = .opening k ↔ st.stage j = .opening k :=
    update_stage_iff (· = .opening k) (by simp [hold]) (by simp) j
  have hnew : st.made ∉ st.queue := fun h => by
    obtain ⟨k, hk⟩ := (hi.mem_queue _).1 h
    simp [hold] at hk
  obtain ⟨hlock, hunique, hpool⟩ := hi.lock_congr
    ({ st with made := st.made + 1, queue := st.queue ++ [st.made] }.setStage st.made
      (.queued key)) rfl rfl fun j k => by simp only [setStage_stage, hopen]
  refine ⟨hlock, hunique, hpool, ?_, ?_,
    fresh_setStage (fun j hj => hi.fresh j (Nat.le_of_succ_le hj)) (Nat.lt_succ_self _),
    hi.pool_open, fits_stage_setStage hi.fits trivial⟩
  · intro j
    by_cases hj : j = st.made
    · subst hj
      simp
    · simp only [setStage_queue, setStage_stage, Function.update_of_ne hj, List.mem_append,
        List.mem_singleton, hj, or_false]
      exact hi.mem_queue j
  · refine List.nodup_append.2 ⟨hi.queue_nodup, List.nodup_cons.2 ⟨List.not_mem_nil, List.nodup_nil⟩, ?_⟩
    intro a ha b hb hab
    exact hnew (List.mem_singleton.1 hb ▸ hab ▸ ha)

/-- A queued fetch that leaves the queue, cancelled or taking the lock, may move to any
stage that is not at the lock and fits the adapter. -/
theorem Inv.leaveQueue (hi : Inv st) (hs : st.stage i = .queued key) (hnew : s.atLock = false)
    (hfits : st.Fits s) : Inv ({ st with queue := st.queue.erase i }.setStage i s) := by
  have hopen (j : Nat) (k : FetchKey) :
      Function.update st.stage i s j = .opening k ↔ st.stage j = .opening k :=
    update_stage_iff (· = .opening k) (by simp [hs]) (Stage.ne_opening_of_atLock hnew k) j
  have hmade : i < st.made := hi.made_gt (by simp [hs])
  obtain ⟨hlock, hunique, hpool⟩ := hi.lock_congr
    ({ st with queue := st.queue.erase i }.setStage i s) rfl rfl
    fun j k => by simp only [setStage_stage, hopen]
  refine ⟨hlock, hunique, hpool, ?_, hi.queue_nodup.erase i, fresh_setStage hi.fresh hmade,
    hi.pool_open, fits_stage_setStage hi.fits hfits⟩
  · intro j
    by_cases hj : j = i
    · subst hj
      simp only [setStage_queue, setStage_stage, Function.update_self]
      exact iff_of_false (hi.queue_nodup.not_mem_erase)
        (fun ⟨k, hk⟩ => Stage.ne_queued_of_atLock hnew k hk)
    · simp only [setStage_queue, setStage_stage, Function.update_of_ne hj,
        List.mem_erase_of_ne hj]
      exact hi.mem_queue j

/-- Taking the pool out of the adapter keeps the invariant. -/
theorem Inv.dropPool (hi : Inv st) : Inv { st with pool := none } where
  locked_iff := hi.locked_iff
  opening_unique := hi.opening_unique
  pool_of_opening _ _ _ := rfl
  mem_queue := hi.mem_queue
  queue_nodup := hi.queue_nodup
  fresh := hi.fresh
  pool_open _ h := by simp at h
  fits j := (hi.fits j).of_le rfl (Nat.le_refl _) fun _ _ => by simp

/-- Closing a pool that is not the adapter's keeps the invariant. -/
theorem Inv.closePool (hi : Inv st) (hp : st.pool ≠ some p) : Inv (st.closePool p) where
  locked_iff := hi.locked_iff
  opening_unique := hi.opening_unique
  pool_of_opening := hi.pool_of_opening
  mem_queue := hi.mem_queue
  queue_nodup := hi.queue_nodup
  fresh := hi.fresh
  pool_open q hq := by
    have hqp : p ≠ q := fun h => hp (h ▸ hq)
    simp only [isOpen, closePool_closed, List.getElem?_set_ne hqp]
    exact hi.pool_open q hq
  fits j := (hi.fits j).of_le rfl (by simp) fun q hq => by
    have h := hi.fits j
    rw [hq] at h
    exact h.2

/-- Storing a newly opened pool while the lock is free keeps the invariant. -/
theorem Inv.openPool (hi : Inv st) (hl : st.locked = false) :
    Inv { st with pool := some st.closed.length, closed := st.closed ++ [false] } where
  locked_iff := hi.locked_iff
  opening_unique := hi.opening_unique
  pool_of_opening j k h := absurd h (hi.not_opening_of_unlocked hl j k)
  mem_queue := hi.mem_queue
  queue_nodup := hi.queue_nodup
  fresh := hi.fresh
  pool_open q hq := by
    obtain rfl := Option.some.inj hq
    simp [isOpen]
  fits j := (hi.fits j).of_le rfl (by simp) fun q hq => by
    have h := hi.fits j
    rw [hq] at h
    simp only [Fits] at h
    simp only [ne_eq, Option.some.injEq]
    omega

theorem Inv.startQuery (hi : Inv st) (hold : (st.stage i).atLock = false) (hmade : i < st.made) :
    Inv (st.startQuery lib i key p) := by
  unfold Shared.startQuery
  split
  · exact (hi.ask _).setStage hold rfl trivial hmade
  · exact (hi.ask _).setStage hold rfl (fits_queryEnd st key) hmade

theorem Inv.closing (lib : Library) (hi : Inv st) (hp : st.pool = none) (hlt : p < st.closed.length)
    (hold : (st.stage i).atLock = false) (hmade : i < st.made) :
    Inv (st.closing lib i p) := by
  unfold Shared.closing
  split
  · exact (hi.ask _).setStage hold rfl ⟨hlt, by simp [hp]⟩ hmade
  · exact ((hi.ask _).closePool (by simp [hp])).setStage hold rfl trivial hmade

/-! ## A fetch holding the lock within a step -/

/-- Fetch `i` holds the lock within a step, before it awaits or releases it: with the lock
free the adapter would satisfy the invariant, and `i` itself waits at nothing. -/
structure Holding (st : Shared) (i : Nat) : Prop where
  locked : st.locked = true
  free : Inv { st with locked := false }
  stage_self : (st.stage i).atLock = false
  made : i < st.made

theorem Holding.ask (h : Holding st i) (r : PoolRequest) : Holding (st.ask r) i where
  locked := h.locked
  free := h.free.ask r
  stage_self := h.stage_self
  made := h.made

/-- A fetch holding the lock that awaits a new pool, the adapter having none, leaves the
invariant holding. -/
theorem Holding.opening (h : Holding st i) (hp : st.pool = none) (key : FetchKey) :
    Inv (st.setStage i (.opening key)) := by
  have hnone (j : Nat) (k : FetchKey) : st.stage j ≠ .opening k :=
    h.free.not_opening_of_unlocked rfl j k
  have hself (j : Nat) (k : FetchKey) (hj : Function.update st.stage i (.opening key) j = .opening k) :
      j = i := by
    by_contra hji
    rw [Function.update_of_ne hji] at hj
    exact hnone j k hj
  have hqueued (j : Nat) (k : FetchKey) :
      Function.update st.stage i (.opening key) j = .queued k ↔ st.stage j = .queued k :=
    update_stage_iff (· = .queued k) (Stage.ne_queued_of_atLock h.stage_self k) (by simp) j
  refine ⟨?_, ?_, fun _ _ _ => hp, ?_, h.free.queue_nodup, fresh_setStage h.free.fresh h.made,
    by simp [hp], fits_stage_setStage h.free.fits trivial⟩
  · simp only [setStage_locked, setStage_stage, h.locked, true_iff]
    exact ⟨i, key, by simp⟩
  · intro j j' k k' hj hj'
    simp only [setStage_stage] at hj hj'
    rw [hself j k hj, hself j' k' hj']
  · intro j
    simp only [setStage_queue, setStage_stage, hqueued]
    exact h.free.mem_queue j

/-- A fetch holding the lock that releases it may move to any stage that is not at the lock
and fits the adapter. -/
theorem Holding.release (h : Holding st i) (hnew : s.atLock = false) (hfits : st.Fits s) :
    Inv ({ st with locked := false }.setStage i s) :=
  h.free.setStage h.stage_self hnew hfits h.made

/-- The pool library's answer to a fetch holding the lock leaves the invariant holding. -/
theorem Holding.opened (lib : Library) (h : Holding st i) (key : FetchKey) :
    Inv (st.opened lib i key) := by
  unfold Shared.opened
  split
  · exact h.release rfl ⟨_, Or.inl rfl⟩
  · exact (h.free.openPool rfl).startQuery h.stage_self h.made

theorem Holding.withLock (lib : Library) (h : Holding st i) (key : FetchKey) :
    Inv (st.withLock lib i key) := by
  unfold Shared.withLock
  split
  next p hp => exact h.free.startQuery h.stage_self h.made
  next hp =>
    simp only
    split
    · exact (h.ask _).opening hp key
    · exact Holding.opened lib (h.ask _) key

/-! ## A call's own earlier stage does not matter to what it does next -/

@[simp] theorem setStage_setStage (st : Shared) (i : Nat) (s s' : Stage) :
    (st.setStage i s).setStage i s' = st.setStage i s' := by
  simp [Shared.setStage]

theorem ask_setStage (st : Shared) (i : Nat) (s : Stage) (r : PoolRequest) :
    (st.setStage i s).ask r = (st.ask r).setStage i s := rfl

theorem startQuery_setStage (st : Shared) (i : Nat) (s : Stage) (key : FetchKey) (p : Nat) :
    (st.setStage i s).startQuery lib i key p = st.startQuery lib i key p := by
  simp only [Shared.startQuery, queryEnd_setStage, ask_setStage, setStage_setStage]

theorem opened_setStage (st : Shared) (i : Nat) (s : Stage) (key : FetchKey) :
    (st.setStage i s).opened lib i key = st.opened lib i key := by
  cases hc : st.server.connectError with
  | some err =>
    simp only [Shared.opened, setStage_server, hc]
    exact setStage_setStage { st with locked := false } i s _
  | none =>
    simp only [Shared.opened, setStage_server, setStage_closed, hc]
    exact startQuery_setStage
      { st with pool := some st.closed.length, closed := st.closed ++ [false], locked := false }
      i s key _

theorem withLock_setStage (st : Shared) (i : Nat) (s : Stage) (key : FetchKey) :
    (st.setStage i s).withLock lib i key = st.withLock lib i key := by
  cases hp : st.pool with
  | some p =>
    simp only [Shared.withLock, setStage_pool, hp]
    exact startQuery_setStage { st with locked := false, pool := some p } i s key p
  | none =>
    simp only [Shared.withLock, setStage_pool, hp, ask_setStage, setStage_setStage,
      opened_setStage]

theorem unlock_setStage (st : Shared) (i : Nat) (s : Stage) (b : Bool) :
    { st.setStage i s with locked := b } = { st with locked := b }.setStage i s := rfl

/-! ## Every action keeps the invariant -/

/-- The first queued fetch, taking the free lock, holds it. -/
theorem Inv.holding_of_first (hi : Inv st) (hs : st.stage i = .queued key)
    (hl : st.locked = false) (hq : st.queue.head? = some i) :
    Holding ({ st with locked := true, queue := st.queue.tail }.setStage i (.ended .returned)) i where
  locked := rfl
  free := by
    have h := hi.leaveQueue hs (s := .ended .returned) rfl trivial
    obtain ⟨rest, hrest⟩ := List.head?_eq_some_iff.1 hq
    have herase : st.queue.erase i = st.queue.tail := by simp [hrest]
    rw [hl, herase] at h
    exact h
  stage_self := by simp [Stage.atLock]
  made := hi.made_gt (by simp [hs])

/-- A fetch whose new pool has come holds the lock. -/
theorem Inv.holding_of_opening (hi : Inv st) (hs : st.stage i = .opening key) :
    Holding (st.setStage i (.ended .returned)) i := by
  have hmade := hi.made_gt (i := i) (by simp [hs])
  have hother (j : Nat) (k : FetchKey) :
      Function.update st.stage i (.ended .returned) j ≠ .opening k := by
    by_cases hji : j = i
    · subst hji
      simp
    · rw [Function.update_of_ne hji]
      exact fun hj => hji (hi.opening_unique j i k key hj hs)
  have hqueued (j : Nat) (k : FetchKey) :
      Function.update st.stage i (.ended .returned) j = .queued k ↔ st.stage j = .queued k :=
    update_stage_iff (· = .queued k) (by simp [hs]) (by simp) j
  refine ⟨hi.locked_iff.2 ⟨i, key, hs⟩, ⟨?_, ?_, ?_, ?_, hi.queue_nodup,
    fresh_setStage hi.fresh hmade, hi.pool_open, fits_stage_setStage hi.fits trivial⟩,
    by simp [Stage.atLock], hmade⟩
  · simp only [setStage_stage, Bool.false_eq_true, false_iff, not_exists]
    exact hother
  · intro j _ k _ hj
    exact absurd hj (hother j k)
  · intro j k hj
    exact absurd hj (hother j k)
  · intro j
    simp only [setStage_queue, setStage_stage, hqueued]
    exact hi.mem_queue j

/-- Making a call keeps the invariant. -/
theorem Inv.call (hi : Inv st) (c : Call) : Inv (st.call lib c) := by
  have hnew : st.stage st.made = .ended .returned := hi.fresh st.made (Nat.le_refl _)
  cases c with
  | fetch key =>
    by_cases hfree : st.locked = false ∧ st.queue = []
    · -- the lock is free and nobody is queued: the fetch takes the lock at once
      have hunlocked : Inv { st with made := st.made + 1, locked := false } := by
        have h := hi.next
        rw [hfree.1] at h
        exact h
      have h : Holding { st with made := st.made + 1, locked := true } st.made :=
        ⟨rfl, hunlocked, by simp [hnew, Stage.atLock], Nat.lt_succ_self _⟩
      simpa only [Shared.call, hfree, and_self, if_true] using Holding.withLock lib h key
    · simpa only [Shared.call, hfree, if_false] using hi.enqueue key
  | aclose =>
    cases hp : st.pool with
    | none =>
      have h := hi.next.setStage (i := st.made) (s := .ended .returned) (by simp [hnew, Stage.atLock])
        rfl trivial (Nat.lt_succ_self _)
      simpa only [Shared.call, hp] using h
    | some p =>
      have h := Inv.closing lib hi.next.dropPool (i := st.made) rfl
        (isOpen_lt (hi.pool_open p hp)) (by simp [hnew, Stage.atLock]) (Nat.lt_succ_self _)
      simpa only [Shared.call, hp] using h

/-- A call resuming keeps the invariant. -/
theorem Inv.resume (hi : Inv st) (i : Nat) : Inv (st.resume lib i) := by
  cases hs : st.stage i with
  | queued key =>
    by_cases hgo : st.locked = false ∧ st.queue.head? = some i
    · have h := Holding.withLock lib (hi.holding_of_first hs hgo.1 hgo.2) key
      rw [withLock_setStage] at h
      simpa only [Shared.resume, hs, hgo, and_self, if_true] using h
    · simpa only [Shared.resume, hs, hgo, if_false] using hi
  | opening key =>
    have h := Holding.opened lib (hi.holding_of_opening hs) key
    rw [opened_setStage] at h
    simpa only [Shared.resume, hs] using h
  | querying key p =>
    have h := hi.setStage (i := i) (by simp [hs, Stage.atLock]) rfl (fits_queryEnd st key)
      (hi.made_gt (by simp [hs]))
    simpa only [Shared.resume, hs] using h
  | closing p =>
    have hf := hi.fits i
    rw [hs] at hf
    have h := (hi.closePool hf.2).setStage (i := i) (s := .ended .returned)
      (by simp [hs, Stage.atLock]) rfl trivial
      (hi.made_gt (by simp [hs]))
    simpa only [Shared.resume, hs] using h
  | ended e => simpa only [Shared.resume, hs] using hi

/-- Cancelling a call keeps the invariant. -/
theorem Inv.cancel (hi : Inv st) (i : Nat) : Inv (st.cancel i) := by
  cases hs : st.stage i with
  | queued key =>
    simpa only [Shared.cancel, hs] using hi.leaveQueue hs (s := .ended .cancelled) rfl trivial
  | opening key =>
    have h := (hi.holding_of_opening hs).release (s := .ended .cancelled) rfl trivial
    rw [unlock_setStage, setStage_setStage] at h
    simpa only [Shared.cancel, hs] using h
  | querying key p =>
    have h := hi.setStage (i := i) (s := .ended .cancelled) (by simp [hs, Stage.atLock]) rfl trivial
      (hi.made_gt (by simp [hs]))
    simpa only [Shared.cancel, hs] using h
  | closing p =>
    have h := hi.setStage (i := i) (s := .ended .cancelled) (by simp [hs, Stage.atLock]) rfl trivial
      (hi.made_gt (by simp [hs]))
    simpa only [Shared.cancel, hs] using h
  | ended e => simpa only [Shared.cancel, hs] using hi

theorem Inv.act (hi : Inv st) (a : Action) : Inv (st.act lib a) := by
  cases a with
  | call c => exact hi.call c
  | resume i => exact hi.resume i
  | cancel i => exact hi.cancel i

/-- **The invariant holds all along every run**, from any adapter satisfying it. -/
theorem Inv.run (hi : Inv st) (as : List Action) : Inv (st.run lib as) := by
  induction as generalizing st with
  | nil => exact hi
  | cons a as ih => exact ih (hi.act a)

/-! ## The settings never change -/

theorem opened_settings (lib : Library) (st : Shared) (i : Nat) (key : FetchKey) :
    (st.opened lib i key).settings = st.settings := by
  unfold Shared.opened
  split <;> rfl

theorem withLock_settings (lib : Library) (st : Shared) (i : Nat) (key : FetchKey) :
    (st.withLock lib i key).settings = st.settings := by
  unfold Shared.withLock
  split
  · rfl
  · simp only
    split
    · rfl
    · exact opened_settings lib _ i key

theorem closing_settings (st : Shared) (i p : Nat) : (st.closing lib i p).settings = st.settings := by
  unfold Shared.closing
  split <;> rfl

theorem cancel_settings (st : Shared) (i : Nat) : (st.cancel i).settings = st.settings := by
  unfold Shared.cancel
  split <;> rfl

theorem act_settings (st : Shared) (a : Action) : (st.act lib a).settings = st.settings := by
  cases a with
  | call c =>
    cases c with
    | fetch key =>
      by_cases hfree : st.locked = false ∧ st.queue = []
      · simpa only [act, Shared.call, hfree, and_self, if_true] using
          withLock_settings lib { st with made := st.made + 1, locked := true } st.made key
      · simp only [act, Shared.call, hfree, if_false, setStage_settings]
    | aclose =>
      cases hp : st.pool with
      | none => simp [act, Shared.call, hp]
      | some p => simp [act, Shared.call, hp, closing_settings]
  | resume i =>
    cases hs : st.stage i with
    | queued key =>
      by_cases hgo : st.locked = false ∧ st.queue.head? = some i
      · simpa only [act, Shared.resume, hs, hgo, and_self, if_true] using
          withLock_settings lib { st with locked := true, queue := st.queue.tail } i key
      · simp [act, Shared.resume, hs, hgo]
    | opening key => simpa [act, Shared.resume, hs] using opened_settings lib st i key
    | querying key p => simp [act, Shared.resume, hs]
    | closing p => simp [act, Shared.resume, hs]
    | ended e => simp [act, Shared.resume, hs]
  | cancel i => exact cancel_settings st i

theorem run_settings (st : Shared) (as : List Action) : (st.run lib as).settings = st.settings := by
  induction as generalizing st with
  | nil => rfl
  | cons a as ih => exact (ih (st.act lib a)).trans (act_settings st a)

/-! ## What a step asks of the pool library -/

/-- A request that the step from `st` to `st'` may make: a new pool only while the adapter
has none and the lock is free, a query only of the pool the adapter holds after the step,
and a closing only of the pool the step took out of the adapter. -/
def MayAsk (st st' : Shared) : PoolRequest → Prop
  | .create _ => st.pool = none ∧ st.locked = false
  | .query _ p => st'.pool = some p
  | .close _ p => st.pool = some p ∧ st'.pool = none

@[simp] theorem startQuery_requests (st : Shared) (i : Nat) (key : FetchKey) (p : Nat) :
    (st.startQuery lib i key p).requests = st.requests ++ [.query i p] := rfl

@[simp] theorem startQuery_pool (st : Shared) (i : Nat) (key : FetchKey) (p : Nat) :
    (st.startQuery lib i key p).pool = st.pool := rfl

theorem closing_requests (st : Shared) (i p : Nat) :
    (st.closing lib i p).requests = st.requests ++ [.close i p] := by
  unfold Shared.closing
  split <;> rfl

theorem closing_pool (st : Shared) (i p : Nat) : (st.closing lib i p).pool = st.pool := by
  unfold Shared.closing
  split <;> rfl

/-- A fetch given its new pool asks at most a query of it, which the adapter then holds. -/
theorem opened_requests (lib : Library) (st : Shared) (i : Nat) (key : FetchKey) :
    ∃ new, (st.opened lib i key).requests = st.requests ++ new ∧
      ∀ r ∈ new, ∃ p, r = .query i p ∧ (st.opened lib i key).pool = some p := by
  unfold Shared.opened
  split
  · exact ⟨[], by simp, by simp⟩
  · exact ⟨[.query i st.closed.length], rfl, by simp⟩

/-- What a fetch that has just taken the free lock of `st₀` asks of the pool library fits
the step from `st₀`. -/
theorem withLock_requests (lib : Library) (st₀ st : Shared) (hpool : st.pool = st₀.pool)
    (hfree : st₀.locked = false) (i : Nat) (key : FetchKey) :
    ∃ new, (st.withLock lib i key).requests = st.requests ++ new ∧
      ∀ r ∈ new, MayAsk st₀ (st.withLock lib i key) r := by
  unfold Shared.withLock
  split
  next p hp =>
    refine ⟨[.query i p], rfl, ?_⟩
    simp only [List.mem_singleton, forall_eq, MayAsk, startQuery_pool]
    exact hp
  next hp =>
    have hcreate : MayAsk st₀ st (.create i) := ⟨hpool ▸ hp, hfree⟩
    simp only
    split
    · exact ⟨[.create i], rfl, by simpa [MayAsk] using hcreate⟩
    · obtain ⟨new, hnew, hq⟩ := opened_requests lib (st.ask (.create i)) i key
      refine ⟨.create i :: new, by simp [hnew], ?_⟩
      simp only [List.mem_cons, forall_eq_or_imp]
      refine ⟨hcreate, fun r hr => ?_⟩
      obtain ⟨p, rfl, hp⟩ := hq r hr
      exact hp

theorem cancel_requests (st : Shared) (i : Nat) : (st.cancel i).requests = st.requests := by
  unfold Shared.cancel
  split <;> rfl

/-- **What each step asks of the pool library**: requests are only ever added, and each one
the step adds is one it may make. -/
theorem act_requests (lib : Library) (st : Shared) (a : Action) :
    ∃ new, (st.act lib a).requests = st.requests ++ new ∧ ∀ r ∈ new, MayAsk st (st.act lib a) r := by
  cases a with
  | call c =>
    cases c with
    | fetch key =>
      by_cases hfree : st.locked = false ∧ st.queue = []
      · simpa only [act, Shared.call, hfree, and_self, if_true] using
          withLock_requests lib st { st with made := st.made + 1, locked := true } rfl hfree.1
            st.made key
      · refine ⟨[], ?_, by simp⟩
        simp only [act, Shared.call, hfree, if_false, setStage_requests, List.append_nil]
    | aclose =>
      cases hp : st.pool with
      | none => exact ⟨[], by simp [act, Shared.call, hp], by simp⟩
      | some p =>
        refine ⟨[.close st.made p], by simp [act, Shared.call, hp, closing_requests], ?_⟩
        simp [MayAsk, act, Shared.call, hp, closing_pool]
  | resume i =>
    cases hs : st.stage i with
    | queued key =>
      by_cases hgo : st.locked = false ∧ st.queue.head? = some i
      · simpa only [act, Shared.resume, hs, hgo, and_self, if_true] using
          withLock_requests lib st { st with locked := true, queue := st.queue.tail } rfl hgo.1
            i key
      · exact ⟨[], by simp [act, Shared.resume, hs, hgo], by simp⟩
    | opening key =>
      obtain ⟨new, hnew, hq⟩ := opened_requests lib st i key
      refine ⟨new, by simpa [act, Shared.resume, hs] using hnew, fun r hr => ?_⟩
      obtain ⟨p, rfl, hp⟩ := hq r hr
      simpa [act, Shared.resume, hs, MayAsk] using hp
    | querying key p => exact ⟨[], by simp [act, Shared.resume, hs], by simp⟩
    | closing p => exact ⟨[], by simp [act, Shared.resume, hs], by simp⟩
    | ended e => exact ⟨[], by simp [act, Shared.resume, hs], by simp⟩
  | cancel i => exact ⟨[], by simp [act, cancel_requests], by simp⟩

/-! ## A library that opens and closes pools at once -/

/-- The adapter between steps when its library opens and closes pools at once: every call
is querying or has ended, and every open pool is the adapter's. -/
structure Quiet (st : Shared) : Prop where
  calm : ∀ i, (st.stage i).calm = true
  open_pool : ∀ p, st.isOpen p → st.pool = some p

theorem quiet_start (settings : Settings) (server : Server) : Quiet (start settings server) where
  calm _ := rfl
  open_pool _ h := by simp [isOpen, start] at h

theorem Quiet.setStage (hq : Quiet st) (hs : s.calm = true) : Quiet (st.setStage i s) where
  calm j := by
    by_cases hji : j = i
    · subst hji
      simpa using hs
    · simpa [Function.update_of_ne hji] using hq.calm j
  open_pool := hq.open_pool

/-- Nobody holds the lock or is queued for it. -/
theorem Quiet.free (hq : Quiet st) (hi : Inv st) : st.locked = false ∧ st.queue = [] := by
  constructor
  · rw [Bool.eq_false_iff]
    intro hl
    obtain ⟨j, k, hj⟩ := hi.locked_iff.1 hl
    simpa [hj, Stage.calm] using hq.calm j
  · rw [List.eq_nil_iff_forall_not_mem]
    intro j hj
    obtain ⟨k, hk⟩ := (hi.mem_queue j).1 hj
    simpa [hk, Stage.calm] using hq.calm j

theorem Quiet.startQuery (hq : Quiet st) : Quiet (st.startQuery lib i key p) := by
  unfold Shared.startQuery
  split
  · exact (⟨hq.calm, hq.open_pool⟩ : Quiet (st.ask _)).setStage rfl
  · exact (⟨hq.calm, hq.open_pool⟩ : Quiet (st.ask _)).setStage rfl

/-- The pool library's answer to a fetch, the adapter having no pool, leaves the new pool as
the one open pool. -/
theorem Quiet.opened (hq : Quiet st) (hp : st.pool = none) : Quiet (st.opened lib i key) := by
  unfold Shared.opened
  split
  · exact (⟨hq.calm, hq.open_pool⟩ : Quiet { st with locked := false }).setStage rfl
  · refine Quiet.startQuery ⟨hq.calm, fun q hq' => ?_⟩
    simp only [isOpen] at hq' ⊢
    by_cases hqn : q < st.closed.length
    · rw [List.getElem?_append_left hqn] at hq'
      simpa [hp] using hq.open_pool q hq'
    · have hlen : q = st.closed.length := by
        have := (List.getElem?_eq_some_iff.1 hq').1
        simp only [List.length_append, List.length_singleton] at this
        omega
      rw [hlen]

theorem Quiet.withLock (hcreate : lib.createYields = false) (hq : Quiet st) (i : Nat)
    (key : FetchKey) : Quiet (st.withLock lib i key) := by
  unfold Shared.withLock
  split
  next p hp => exact Quiet.startQuery ⟨hq.calm, hq.open_pool⟩
  next hp =>
    simp only [hcreate, Bool.false_eq_true, if_false]
    exact Quiet.opened ⟨hq.calm, hq.open_pool⟩ hp

/-- Taking the pool out of the adapter and closing it at once leaves no pool open. -/
theorem Quiet.closeTaken (hq : Quiet st) (hp : st.pool = some p) :
    Quiet ({ st with pool := none }.closePool p) where
  calm := hq.calm
  open_pool q hq' := by
    simp only [isOpen, closePool_closed] at hq'
    by_cases hqp : p = q
    · subst hqp
      simp [List.getElem?_set] at hq'
    · rw [List.getElem?_set_ne hqp] at hq'
      have := hq.open_pool q hq'
      rw [hp, Option.some.injEq] at this
      exact absurd this hqp

section Prompt

variable (hcreate : lib.createYields = false) (hclose : lib.closeYields = false)
include hcreate hclose

/-- With a library that opens and closes pools at once, every step keeps the adapter
quiet. -/
theorem Quiet.act (hi : Inv st) (hq : Quiet st) (a : Action) : Quiet (st.act lib a) := by
  cases a with
  | call c =>
    cases c with
    | fetch key =>
      -- the lock is free and nobody is queued, so the fetch takes the lock at once
      have hfree := hq.free hi
      simpa only [Shared.act, Shared.call, hfree, and_self, if_true] using
        (⟨hq.calm, hq.open_pool⟩ : Quiet { st with made := st.made + 1, locked := true }).withLock
          hcreate st.made key
    | aclose =>
      cases hp : st.pool with
      | none =>
        simpa only [Shared.act, Shared.call, hp] using
          (⟨hq.calm, hq.open_pool⟩ : Quiet { st with made := st.made + 1 }).setStage
            (i := st.made) (s := .ended .returned) rfl
      | some p =>
        have h := (⟨hq.calm, hq.open_pool⟩ : Quiet { st with made := st.made + 1 }).closeTaken hp
        simpa only [Shared.act, Shared.call, hp, Shared.closing, hclose, Bool.false_eq_true, if_false]
          using (⟨h.calm, h.open_pool⟩ : Quiet (({ st with made := st.made + 1, pool := none }.ask
            (.close st.made p)).closePool p)).setStage (i := st.made) (s := .ended .returned) rfl
  | resume i =>
    have hcalm := hq.calm i
    cases hs : st.stage i with
    | querying key p =>
      simpa only [Shared.act, Shared.resume, hs] using hq.setStage (i := i) (s := .ended (st.queryEnd key)) rfl
    | ended e => simpa only [Shared.act, Shared.resume, hs] using hq
    | queued _ | opening _ | closing _ => simp [hs, Stage.calm] at hcalm
  | cancel i =>
    have hcalm := hq.calm i
    cases hs : st.stage i with
    | querying key p =>
      simpa only [Shared.act, Shared.cancel, hs] using hq.setStage (i := i) (s := .ended .cancelled) rfl
    | ended e => simpa only [Shared.act, Shared.cancel, hs] using hq
    | queued _ | opening _ | closing _ => simp [hs, Stage.calm] at hcalm

theorem Quiet.run (hi : Inv st) (hq : Quiet st) (as : List Action) : Quiet (st.run lib as) := by
  induction as generalizing st with
  | nil => exact hq
  | cons a as ih => exact ih (hi.act a) (hq.act hcreate hclose hi a)

end Prompt

/-- Closing takes the pool out of the adapter. -/
theorem call_aclose_pool (st : Shared) : (st.call lib .aclose).pool = none := by
  cases hp : st.pool with
  | none => simp [Shared.call, hp]
  | some p => simp [Shared.call, hp, closing_pool]

/-- With a library that closes pools at once, closing returns within its first step. -/
theorem call_aclose_stage (hclose : lib.closeYields = false) (st : Shared) :
    (st.call lib .aclose).stage st.made = .ended .returned := by
  cases hp : st.pool with
  | none => simp [Shared.call, hp]
  | some p => simp [Shared.call, hp, Shared.closing, hclose]

theorem cancel_pool (st : Shared) (i : Nat) : (st.cancel i).pool = st.pool := by
  unfold Shared.cancel
  split <;> rfl

/-- A quiet adapter without a pool gets none from a step that starts no fetch. -/
theorem Quiet.act_pool (hq : Quiet st) (hp : st.pool = none) {a : Action}
    (ha : ∀ key, a ≠ .call (.fetch key)) : (st.act lib a).pool = none := by
  cases a with
  | call c =>
    cases c with
    | fetch key => exact absurd rfl (ha key)
    | aclose => exact call_aclose_pool st
  | resume i =>
    have hcalm := hq.calm i
    cases hs : st.stage i with
    | querying key p => simpa [Shared.act, Shared.resume, hs] using hp
    | ended e => simpa [Shared.act, Shared.resume, hs] using hp
    | queued _ | opening _ | closing _ => simp [hs, Stage.calm] at hcalm
  | cancel i => simpa [Shared.act, cancel_pool] using hp

/-- **After closing returns, with no fetch started after it, no pool is held or open**, for
a library that opens and closes pools at once: closing returns within its first step, and
however the fetches already made go on, and whatever further closings and cancellations
come, the adapter holds no pool and every pool it opened has been closed. -/
theorem Quiet.aclose_closes_all (hcreate : lib.createYields = false)
    (hclose : lib.closeYields = false) (hi : Inv st) (hq : Quiet st) (post : List Action)
    (hpost : ∀ a ∈ post, ∀ key, a ≠ .call (.fetch key)) :
    (st.act lib (.call .aclose)).stage st.made = .ended .returned ∧
      ((st.act lib (.call .aclose)).run lib post).pool = none ∧
      ∀ p, ¬ ((st.act lib (.call .aclose)).run lib post).isOpen p := by
  -- the adapter stays quiet and without a pool along `post`
  have hrun : ∀ (post : List Action) (st : Shared), Inv st → Quiet st → st.pool = none →
      (∀ a ∈ post, ∀ key, a ≠ .call (.fetch key)) →
      Quiet (st.run lib post) ∧ (st.run lib post).pool = none := by
    intro post
    induction post with
    | nil => exact fun st _ hq hp _ => ⟨hq, hp⟩
    | cons a post ih =>
      intro st hi hq hp hpost
      exact ih (st.act lib a) (hi.act a) (hq.act hcreate hclose hi a)
        (hq.act_pool hp (hpost a List.mem_cons_self)) fun b hb => hpost b (List.mem_cons_of_mem a hb)
  obtain ⟨hquiet, hnone⟩ := hrun post (st.act lib (.call .aclose)) (hi.act _)
    (hq.act hcreate hclose hi _) (call_aclose_pool st) hpost
  refine ⟨call_aclose_stage hclose st, hnone, fun p hp => ?_⟩
  have := hquiet.open_pool p hp
  rw [hnone] at this
  exact absurd this (by simp)

/-! ## The lifecycle -/

/-- **The pool lifecycle is safe under any interleaving.**  Whatever calls are made on the
adapter, in whatever order they resume and wherever they are cancelled:

* at most one fetch awaits a new pool at a time, and while one does the adapter has none;
* the next step asks for a new pool only while the adapter has none and no fetch awaits
  one, and queries only the pool the adapter then holds, which is open;
* every error a call has raised is a failure to connect or a failed query, of kind
  `AdapterError`;
* with a library that opens and closes pools at once, as the test's fake pool does: once
  closing returns, and as long as no fetch starts after it, the adapter holds no pool and
  every pool it opened has been closed.  A library that yields while opening a pool breaks
  this last point (`aclose_during_create_keeps_pool`). -/
theorem pool_lifecycle (lib : Library) (settings : Settings) (server : Server)
    (pre : List Action) :
    let st := (start settings server).run lib pre
    (∀ i j k k', st.stage i = .opening k → st.stage j = .opening k' → i = j) ∧
    (∀ i k, st.stage i = .opening k → st.pool = none) ∧
    (∀ a, ∃ new, (st.act lib a).requests = st.requests ++ new ∧
      (∀ i, .create i ∈ new → st.pool = none ∧ ∀ j k, st.stage j ≠ .opening k) ∧
      ∀ i p, .query i p ∈ new → (st.act lib a).pool = some p ∧ (st.act lib a).isOpen p) ∧
    (∀ i e, st.stage i = .ended (.raised e) →
      ∃ err, e = settings.connectFailure err ∨ e = settings.queryFailure err) ∧
    (lib.createYields = false → lib.closeYields = false → ∀ post : List Action,
      (∀ a ∈ post, ∀ key, a ≠ .call (.fetch key)) →
      (st.act lib (.call .aclose)).stage st.made = .ended .returned ∧
        ((st.act lib (.call .aclose)).run lib post).pool = none ∧
        ∀ p, ¬ ((st.act lib (.call .aclose)).run lib post).isOpen p) := by
  intro st
  have hi : Inv st := (inv_start settings server).run pre
  refine ⟨hi.opening_unique, hi.pool_of_opening, fun a => ?_, fun i e hraised => ?_,
    fun hcreate hclose post hpost => ?_⟩
  · obtain ⟨new, hnew, hmay⟩ := act_requests lib st a
    refine ⟨new, hnew, fun i hc => ?_, fun i p hq => ?_⟩
    · obtain ⟨hp, hl⟩ := hmay _ hc
      exact ⟨hp, hi.not_opening_of_unlocked hl⟩
    · have hp : (st.act lib a).pool = some p := hmay _ hq
      exact ⟨hp, (hi.act a).pool_open p hp⟩
  · have hfits : ∃ err, e = st.settings.connectFailure err ∨ e = st.settings.queryFailure err := by
      have h := hi.fits i
      rw [hraised] at h
      exact h
    have hsettings : st.settings = settings := run_settings (start settings server) pre
    rw [hsettings] at hfits
    exact hfits
  · have hq : Quiet st :=
      (quiet_start settings server).run hcreate hclose (inv_start settings server) pre
    exact hq.aclose_closes_all hcreate hclose hi post hpost

/-- A fetch of the database list, then closing, with a library that never yields: closing
returns at once, and after the fetch is resumed no pool is held or open. -/
theorem pool_lifecycle_fetch_then_close :
    let lib : Library := ⟨false, false, false⟩
    let st := (start {} {}).run lib [.call (.fetch .databases)]
    lib.createYields = false ∧ lib.closeYields = false ∧
      (∀ a ∈ [Action.resume 0], ∀ key, a ≠ .call (.fetch key)) ∧
      (st.act lib (.call .aclose)).stage st.made = .ended .returned ∧
      ((st.act lib (.call .aclose)).run lib [.resume 0]).pool = none ∧
      ∀ p, ¬ ((st.act lib (.call .aclose)).run lib [.resume 0]).isOpen p := by
  intro lib st
  have hpost : ∀ a ∈ [Action.resume 0], ∀ key, a ≠ .call (.fetch key) := by simp
  exact ⟨rfl, rfl, hpost,
    (pool_lifecycle lib {} {} [.call (.fetch .databases)]).2.2.2.2 rfl rfl [.resume 0] hpost⟩

/-- **A pool outlives closing when opening one yields.**  A fetch asks the library for a
new pool and awaits it; meanwhile the adapter is closed and, holding no pool yet, closing
returns at once; then the new pool comes and the fetch stores it.  Closing has returned and
no fetch started after it, yet the adapter holds pool `0`, which is open. -/
theorem aclose_during_create_keeps_pool (hcreate : lib.createYields = true)
    (settings : Settings) (server : Server) (hconnect : server.connectError = none)
    (key : FetchKey) :
    let st := (start settings server).run lib [.call (.fetch key), .call .aclose, .resume 0]
    st.stage 1 = .ended .returned ∧ st.pool = some 0 ∧ st.isOpen 0 := by
  simp [run, Shared.act, Shared.call, start, Shared.withLock, hcreate, Shared.resume,
    Shared.opened, hconnect, Shared.startQuery, isOpen]

/-- With a library that yields while it opens a pool, as one that connects to a server does:
a fetch of the database list, closing while the fetch awaits its pool, then the pool comes.
Closing has returned, yet pool `0` is held and open. -/
theorem pool_outlives_aclose :
    let lib : Library := ⟨true, false, false⟩
    let st := (start {} {}).run lib [.call (.fetch .databases), .call .aclose, .resume 0]
    st.stage 1 = .ended .returned ∧ st.pool = some 0 ∧ st.isOpen 0 :=
  aclose_during_create_keeps_pool rfl {} {} rfl .databases

end Shared

/-- **One call at a time, the adapter is the sequential one.**  With a library that never
yields and no call waiting on the adapter, a fetch ends as the sequential adapter's query
for the same key ends, with the same errors, and leaves a pool exactly when the sequential
adapter leaves one open. -/
theorem Adapter.query_eq_call (st : Shared) (hfree : st.locked = false ∧ st.queue = [])
    (key : FetchKey) :
    let lib : Library := ⟨false, false, false⟩
    let a : Adapter := { settings := st.settings, server := st.server, poolOpen := st.pool.isSome }
    (st.call lib (.fetch key)).stage st.made = .ended (.ofExcept (a.query key).2) ∧
      (st.call lib (.fetch key)).pool.isSome = (a.query key).1.poolOpen := by
  intro lib a
  have hcall : st.call lib (.fetch key) =
      { st with made := st.made + 1, locked := true }.withLock lib st.made key := by
    simp only [Shared.call, hfree, and_self, if_true]
  rw [hcall]
  cases hp : st.pool with
  | some p =>
    -- a pool is there: both only run the query
    cases hf : st.server.failures.lookup key.text <;>
      simp [Shared.withLock, hp, Shared.startQuery, Shared.queryEnd, hf, lib, a, Adapter.query,
        Adapter.ensurePool, CallEnd.ofExcept, Settings.queryFailure]
  | none =>
    -- no pool yet: both open one first, and fail alike when connecting fails
    cases hc : st.server.connectError with
    | some err =>
      simp [Shared.withLock, hp, Shared.opened, hc, lib, a, Adapter.query, Adapter.ensurePool,
        CallEnd.ofExcept, Settings.connectFailure]
    | none =>
      cases hf : st.server.failures.lookup key.text <;>
        simp [Shared.withLock, hp, Shared.opened, hc, Shared.startQuery, Shared.queryEnd, hf, lib, a,
          Adapter.query, Adapter.ensurePool, CallEnd.ofExcept, Settings.queryFailure]

end SqlAssist.Postgres
