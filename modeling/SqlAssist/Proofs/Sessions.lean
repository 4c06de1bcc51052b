import SqlAssist.Session
import SqlAssist.Proofs.Schema.LoneLoad

/-!
# A session binds its buffers consistently

A session makes its loads one at a time, and each finishes within the call that started
it (`Schema.World.load_outcome`): between two calls no load is in flight.  On that ground
the calls of a session behave as a small state machine over the bindings of its
buffers.

## Main statements

* `Session.loadSource_result`: a load of a source that is not cached ends with the name
  cached, or fails with the two notices of a failed load, or fails on a name the cache
  cannot key.
* `Session.attach_result`: what one attach does to the bindings, the cache and the notices,
  by the way it ends (`Session.AttachContract`).
* `Session.isAttached_call`: what one call does to the binding of a buffer.
* `Session.calls_bindings_consistent`: **over any calls, a buffer is bound exactly when the
  last call that says something of it bound it, and every attach keeps its contract.**
-/

namespace SqlAssist

namespace Session

open Schema

/-! ## Telling listeners -/

section Notify

variable (s : Session) (src : String) (level : NoticeLevel) (msg : String)

/-- Telling listeners one by one, a collecting listener keeping a copy of the notice and a
reporting one logging its message, touches nothing but the notices and the log. -/
theorem foldl_tell {F : Session → Listener → Session}
    (hcollect : ∀ s, F s .collect = { s with notices := s.notices ++ [⟨src, level, msg⟩] })
    (hreport : ∀ s, F s .report = s.log ⟨.info, reportComponent, msg⟩) :
    ∀ (L : List Listener) (s₀ : Session),
      (L.foldl F s₀).attachments = s₀.attachments ∧ (L.foldl F s₀).listeners = s₀.listeners ∧
        (L.foldl F s₀).world.cache = s₀.world.cache ∧
        (L.foldl F s₀).world.sources = s₀.world.sources ∧
        (L.foldl F s₀).notices = s₀.notices ++ List.replicate (L.count .collect) ⟨src, level, msg⟩ := by
  intro L
  induction L with
  | nil => intro s₀; simp
  | cons l L ih =>
    intro s₀
    cases l with
    | collect =>
      obtain ⟨h1, h2, h3, h4, h5⟩ := ih { s₀ with notices := s₀.notices ++ [⟨src, level, msg⟩] }
      rw [List.foldl_cons, hcollect]
      refine ⟨h1, h2, h3, h4, ?_⟩
      rw [h5, List.count_cons_self, List.replicate_succ]
      simp
    | report =>
      obtain ⟨h1, h2, h3, h4, h5⟩ := ih (s₀.log ⟨.info, reportComponent, msg⟩)
      rw [List.foldl_cons, hreport]
      refine ⟨h1, h2, h3, h4, ?_⟩
      rw [h5, List.count_cons_of_ne (by decide)]
      rfl

/-- **Telling the listeners of a notice** gives one copy to each collecting listener and
touches nothing but the notices and the log. -/
theorem notify_fields :
    (s.notify src level msg).attachments = s.attachments ∧
      (s.notify src level msg).listeners = s.listeners ∧
      (s.notify src level msg).world.cache = s.world.cache ∧
      (s.notify src level msg).world.sources = s.world.sources ∧
      (s.notify src level msg).notices =
        s.notices ++ List.replicate (s.listeners.count .collect) ⟨src, level, msg⟩ := by
  unfold notify
  -- the listeners told are read once, from the session before the telling
  exact foldl_tell src level msg (fun _ => rfl) (fun _ => rfl) s.listeners s

@[simp] theorem notify_attachments : (s.notify src level msg).attachments = s.attachments :=
  (notify_fields s src level msg).1

@[simp] theorem notify_listeners : (s.notify src level msg).listeners = s.listeners :=
  (notify_fields s src level msg).2.1

@[simp] theorem notify_cache : (s.notify src level msg).world.cache = s.world.cache :=
  (notify_fields s src level msg).2.2.1

@[simp] theorem notify_sources : (s.notify src level msg).world.sources = s.world.sources :=
  (notify_fields s src level msg).2.2.2.1

theorem notices_notify :
    (s.notify src level msg).notices =
      s.notices ++ List.replicate (s.listeners.count .collect) ⟨src, level, msg⟩ :=
  (notify_fields s src level msg).2.2.2.2

end Notify

/-! ## Handing over buffers, detaching, resolving -/

section Updates

variable (s : Session) (buffer : String)

@[simp] theorem openBuffer_attachments (b : Buffer) :
    (s.openBuffer buffer b).1.attachments = s.attachments := rfl

@[simp] theorem openBuffer_world (b : Buffer) : (s.openBuffer buffer b).1.world = s.world := rfl

@[simp] theorem openBuffer_listeners (b : Buffer) :
    (s.openBuffer buffer b).1.listeners = s.listeners := rfl

@[simp] theorem openBuffer_notices (b : Buffer) :
    (s.openBuffer buffer b).1.notices = s.notices := rfl

/-- Resolving a source reads only the configuration and the sources. -/
@[simp] theorem resolve_openBuffer (b : Buffer) (name : Option String) :
    (s.openBuffer buffer b).1.resolve name = s.resolve name := rfl

@[simp] theorem log_attachments (r : Log.Record) : (s.log r).attachments = s.attachments := rfl

@[simp] theorem log_cache (r : Log.Record) : (s.log r).world.cache = s.world.cache := rfl

@[simp] theorem log_sources (r : Log.Record) : (s.log r).world.sources = s.world.sources := rfl

@[simp] theorem log_listeners (r : Log.Record) : (s.log r).listeners = s.listeners := rfl

@[simp] theorem log_notices (r : Log.Record) : (s.log r).notices = s.notices := rfl

/-- Detaching a buffer drops its binding, and only that. -/
theorem detach_attachments :
    (s.detach buffer).attachments = s.attachments.filter (·.buffer ≠ buffer) := by
  unfold detach
  split
  · rfl
  · -- with no binding of the buffer the filter keeps every binding
    rename_i hnot
    simp only [isAttached, List.any_eq_true, decide_eq_true_eq, not_exists, not_and] at hnot
    symm
    rw [List.filter_eq_self]
    intro a ha
    simpa using hnot a ha

@[simp] theorem detach_cache : (s.detach buffer).world.cache = s.world.cache := by
  unfold detach; split <;> rfl

@[simp] theorem detach_sources : (s.detach buffer).world.sources = s.world.sources := by
  unfold detach; split <;> rfl

@[simp] theorem detach_listeners : (s.detach buffer).listeners = s.listeners := by
  unfold detach; split <;> rfl

@[simp] theorem detach_notices : (s.detach buffer).notices = s.notices := by
  unfold detach; split <;> rfl

/-- A named source that is not there is a missing source. -/
theorem dataSource_error {name : String} {e : SessionError} (h : s.dataSource name = .error e) :
    ∃ m, e = .noSource m := by
  unfold dataSource at h
  split at h
  · cases h
  · cases h
    exact ⟨_, rfl⟩

/-- **Resolving fails only for a missing source.** -/
theorem resolve_error {name : Option String} {e : SessionError} (h : s.resolve name = .error e) :
    ∃ m, e = .noSource m := by
  cases name with
  | some n => exact s.dataSource_error h
  | none =>
    simp only [resolve] at h
    cases hdef : s.defaultSource with
    | ok v =>
      rw [hdef] at h
      cases v with
      | some found => cases h
      | none =>
        cases h
        exact ⟨_, rfl⟩
    | error e' =>
      rw [hdef] at h
      cases h
      -- the default the configuration names is missing
      unfold defaultSource at hdef
      split at hdef
      · split at hdef
        · cases hdef
        · cases hd : s.dataSource _ with
          | error e'' =>
            rw [hd] at hdef
            cases hdef
            exact s.dataSource_error hd
          | ok v =>
            rw [hd] at hdef
            cases hdef
      · cases hdef

end Updates

/-! ## Loading a source -/

/-- **A load of a source ends with the name cached, or fails.**  A load that fails tells
the listeners that the schema was loading and then that it failed to load, with the
load error; one that fails on a name that cannot be a key tells only the first.  The
bindings and the listeners are kept, and no load is left in flight. -/
theorem loadSource_result (s : Session) (hq : s.world.cache.inflight = []) (name key : String) :
    (s.loadSource name key).1.attachments = s.attachments ∧
      (s.loadSource name key).1.listeners = s.listeners ∧
      (s.loadSource name key).1.world.cache.inflight = [] ∧
      match (s.loadSource name key).2 with
      | .ok () => (s.loadSource name key).1.world.cache.has name
      | .error (.load (.stage e)) => (s.loadSource name key).1.notices = s.notices ++
          List.replicate (s.listeners.count .collect)
            ⟨name, .info, "Loading schema for " ++ name ++ "..."⟩ ++
          List.replicate (s.listeners.count .collect)
            ⟨name, .error, "Failed to load schema: " ++ e.message⟩
      | .error (.load (.misuse _)) => True
      | .error (.noSource _) => False := by
  have hfree : (s.notify name .info ("Loading schema for " ++ name ++ "...")).world.cache.inflight.lookup
      name = none := by
    rw [notify_cache, hq]
    rfl
  have hload := World.load_outcome _ name key hfree
  unfold loadSource
  dsimp only
  generalize (s.notify name .info ("Loading schema for " ++ name ++ "...")).world.load name key =
    res at hload
  obtain ⟨w', o⟩ := res
  obtain ⟨hout, hinfl⟩ := hload
  dsimp only at hout hinfl ⊢
  rw [notify_cache, hq] at hinfl
  rcases hout with ⟨rfl, hhas⟩ | ⟨f, rfl⟩
  · simpa using ⟨hinfl, hhas⟩
  · cases f with
    | stage e =>
      refine ⟨by simp, by simp, by simpa using hinfl, ?_⟩
      simp only [notices_notify, List.append_assoc]
      simp
    | misuse m => exact ⟨by simp, by simp, by simpa using hinfl, trivial⟩

/-! ## Attaching -/

/-- The notices a failed load sends to the listeners of `s`: one that the schema of `n` is
loading, then one that it failed to load, with the load error, to each collecting
listener. -/
def failedLoadNotices (s : Session) (n : String) (e : LoadError) : List Notice :=
  List.replicate (s.listeners.count .collect) ⟨n, .info, "Loading schema for " ++ n ++ "..."⟩ ++
    List.replicate (s.listeners.count .collect) ⟨n, .error, "Failed to load schema: " ++ e.message⟩

/-- A buffer bound last, once its other bindings are dropped, is found bound there: its
source is the one it was bound to, and so is its server's. -/
theorem bound_of_attachments {s' : Session} {L : List Attachment} {buffer n : String} {k : Nat}
    (h : s'.attachments = L.filter (·.buffer ≠ buffer) ++ [⟨buffer, n, k⟩]) :
    s'.sourceOf? buffer = some n ∧ (s'.server? buffer).map (·.service.source) = some n := by
  have hfind : s'.attachments.find? (·.buffer = buffer) = some ⟨buffer, n, k⟩ := by
    rw [h, List.find?_append, List.find?_eq_none.2 fun a ha => by simpa using (List.mem_filter.1 ha).2]
    simp
  simp [sourceOf?, server?, hfind, service]

/-- What an attach of `buffer` to the source `name`, made from session `s`, promises of the
session `s'` it ends in, by its result.

* Bound to the source `n`: `name` resolves to `n`; every other binding is kept and the
  buffer is bound to `n`, reading the object handed over, so that `n` is the source of the
  buffer and of its server; the schema of `n` is cached; and if it was cached already, no
  notice was sent and no source was asked.
* A source that cannot be had: the bindings, the world (cache, sources, log) and the
  notices are as they were.
* A failed load: `name` resolved; the buffer is left unbound and every other binding
  kept; exactly the notices of a failed load were sent.
* A name the cache cannot key: the buffer is left unbound and every other binding kept. -/
def AttachContract (s : Session) (buffer : String) (name : Option String) (s' : Session) :
    Except SessionError String → Prop
  | .ok n => (∃ key, s.resolve name = .ok (n, key)) ∧
      s'.attachments = s.attachments.filter (·.buffer ≠ buffer) ++ [⟨buffer, n, s.objects.length⟩] ∧
      (s'.sourceOf? buffer = some n ∧ (s'.server? buffer).map (·.service.source) = some n) ∧
      s'.world.cache.has n ∧
      (s.world.cache.has n → s'.notices = s.notices ∧ s'.world.sources = s.world.sources)
  | .error (.noSource _) => s'.attachments = s.attachments ∧ s'.world = s.world ∧ s'.notices = s.notices
  | .error (.load (.stage e)) => ∃ n key, s.resolve name = .ok (n, key) ∧
      s'.attachments = s.attachments.filter (·.buffer ≠ buffer) ∧
      s'.notices = s.notices ++ s.failedLoadNotices n e
  | .error (.load (.misuse _)) => s'.attachments = s.attachments.filter (·.buffer ≠ buffer)

/-- **How an attach ends.**  One that cannot resolve its source changes nothing but the
objects handed over.  One that resolves it detaches the buffer first, and binds the
buffer to the source once the source's schema is cached, by an earlier load or by its own;
a failed load leaves the buffer detached.  The listeners are kept, and no load is left in
flight. -/
theorem attach_result (s : Session) (hq : s.world.cache.inflight = []) (buffer : String)
    (b : Buffer) (name : Option String) :
    (s.attach buffer b name).1.listeners = s.listeners ∧
      (s.attach buffer b name).1.world.cache.inflight = [] ∧
      AttachContract s buffer name (s.attach buffer b name).1 (s.attach buffer b name).2 := by
  have hres := resolve_openBuffer s buffer b name
  have hatt := openBuffer_attachments s buffer b
  have hworld := openBuffer_world s buffer b
  have hlis := openBuffer_listeners s buffer b
  have hnot := openBuffer_notices s buffer b
  have hhandle : (s.openBuffer buffer b).2 = s.objects.length := rfl
  unfold attach
  generalize s.openBuffer buffer b = ob at hres hatt hworld hlis hnot hhandle
  obtain ⟨s₁, handle⟩ := ob
  dsimp only at hres hatt hworld hlis hnot hhandle ⊢
  subst hhandle
  cases hr : s₁.resolve name with
  | error e =>
    obtain ⟨m, rfl⟩ := s.resolve_error (hres ▸ hr)
    exact ⟨hlis, by rw [hworld, hq], hatt, hworld, hnot⟩
  | ok found =>
    obtain ⟨n, key⟩ := found
    rw [hres] at hr
    dsimp only
    have hdet := detach_attachments s₁ buffer
    rw [hatt] at hdet
    by_cases hc : (s₁.detach buffer).world.cache.has n
    · -- cached already: bind at once
      rw [if_pos hc]
      have hc' : s.world.cache.has n := by simpa [hworld] using hc
      refine ⟨by simp [hlis], by simp [hworld, hq], ⟨key, hr⟩, by simp [hdet],
        bound_of_attachments (L := s.attachments) (k := s.objects.length) (by simp [hdet]),
        by simpa using hc,
        fun _ => ⟨by simp [hnot], by simp [hworld]⟩⟩
    · -- not cached: the load decides
      rw [if_neg hc]
      have hc' : s.world.cache.has n = false := by simpa [hworld] using hc
      have hq₂ : (s₁.detach buffer).world.cache.inflight = [] := by rw [detach_cache, hworld, hq]
      obtain ⟨hatt₃, hlis₃, hinfl₃, hout⟩ := loadSource_result _ hq₂ n key
      generalize (s₁.detach buffer).loadSource n key = res at hatt₃ hlis₃ hinfl₃ hout
      obtain ⟨s₃, loaded⟩ := res
      dsimp only at hatt₃ hlis₃ hinfl₃ hout ⊢
      rw [detach_listeners, hlis] at hlis₃
      cases loaded with
      | error e =>
        cases e with
        | noSource m => exact hout.elim
        | load f =>
          refine ⟨hlis₃, hinfl₃, ?_⟩
          cases f with
          | stage e =>
            refine ⟨n, key, hr, hatt₃.trans hdet, ?_⟩
            rw [hout, detach_notices, hnot, detach_listeners, hlis, failedLoadNotices,
              List.append_assoc]
          | misuse m => exact hatt₃.trans hdet
      | ok u =>
        refine ⟨by simpa using hlis₃, by simpa using hinfl₃, ⟨key, hr⟩, by simp [hatt₃, hdet],
          bound_of_attachments (L := s.attachments) (k := s.objects.length) (by simp [hatt₃, hdet]),
          by simpa using hout, fun hhas => ?_⟩
        rw [hc'] at hhas
        cases hhas

/-! ## Refreshing and closing -/

/-- A refresh keeps the bindings and leaves no load in flight. -/
theorem refresh_result (s : Session) (hq : s.world.cache.inflight = []) (name : String) :
    (s.refresh name).1.attachments = s.attachments ∧
      (s.refresh name).1.world.cache.inflight = [] := by
  unfold refresh
  split
  · exact ⟨rfl, hq⟩
  · rename_i key _
    dsimp only
    have hinfl := (World.refresh_outcome
      (s.notify name .info ("Refreshing schema for " ++ name ++ "...")).world name key).2
    generalize (s.notify name .info ("Refreshing schema for " ++ name ++ "...")).world.refresh name
      key = res at hinfl
    obtain ⟨w', o⟩ := res
    dsimp only at hinfl ⊢
    rw [notify_cache, hq] at hinfl
    change w'.cache.inflight = [] at hinfl
    split <;> exact ⟨by simp, by simpa using hinfl⟩

/-- Detaching some buffers in turn drops their bindings, and only those. -/
theorem foldl_detach (L : List Attachment) (s₀ : Session) :
    (L.foldl (fun s a => s.detach a.buffer) s₀).attachments =
        s₀.attachments.filter (fun a => !L.any (·.buffer = a.buffer)) ∧
      (L.foldl (fun s a => s.detach a.buffer) s₀).world.cache = s₀.world.cache := by
  induction L generalizing s₀ with
  | nil => simp
  | cons x L ih =>
    obtain ⟨hatt, hcache⟩ := ih (s₀.detach x.buffer)
    refine ⟨?_, by rw [List.foldl_cons, hcache, detach_cache]⟩
    rw [List.foldl_cons, hatt, detach_attachments, List.filter_filter]
    congr 1
    funext a
    by_cases hx : x.buffer = a.buffer <;> simp [hx, eq_comm]

/-- **Closing a session drops every binding**, and leaves the cache alone. -/
theorem close_result (s : Session) : s.close.attachments = [] ∧ s.close.world.cache = s.world.cache := by
  obtain ⟨hatt, hcache⟩ := foldl_detach s.attachments s
  refine ⟨?_, hcache⟩
  unfold close
  dsimp only
  rw [hatt, List.filter_eq_nil_iff]
  intro a ha
  simpa using ⟨a, ha, rfl⟩

/-! ## Calls -/

/-- A call a client makes on a session. -/
inductive Call
  | attach (buffer : String) (b : Buffer) (name : Option String)
  | detach (buffer : String)
  | refresh (name : String)
  | close

/-- Make a call: the session afterwards, and the failure the call raised, if any. -/
def call (s : Session) : Call → Session × Option SessionError
  | .attach buffer b name =>
    match s.attach buffer b name with
    | (s, .ok _) => (s, none)
    | (s, .error e) => (s, some e)
  | .detach buffer => (s.detach buffer, none)
  | .refresh name =>
    match s.refresh name with
    | (s, .ok ()) => (s, none)
    | (s, .error e) => (s, some e)
  | .close => (s.close, none)

/-- Make calls one after another: the session afterwards, and each call with the failure
it raised. -/
def calls (s : Session) : List Call → Session × List (Call × Option SessionError)
  | [] => (s, [])
  | c :: cs => ((s.call c).1.calls cs).map id ((c, (s.call c).2) :: ·)

/-- What a call that raised `err` says of the binding of buffer `b`: an attach of `b`
that succeeded bound it; a detach of `b`, a close, and an attach of `b` that failed after
resolving its source unbound it.  An attach that could not resolve its source, and a
refresh, say nothing of it. -/
def Call.binding (b : String) : Call → Option SessionError → Option Bool
  | .attach buffer _ _, none => if buffer = b then some true else none
  | .attach _ _ _, some (.noSource _) => none
  | .attach buffer _ _, some (.load _) => if buffer = b then some false else none
  | .detach buffer, _ => if buffer = b then some false else none
  | .refresh _, _ => none
  | .close, _ => some false

/-- The binding of `b` that the last call saying something of it left. -/
def lastBinding (b : String) : List (Call × Option SessionError) → Option Bool
  | [] => none
  | (c, err) :: log => (lastBinding b log).or (c.binding b err)

/-- **A call keeps no load in flight.** -/
theorem call_quiet (s : Session) (hq : s.world.cache.inflight = []) (c : Call) :
    (s.call c).1.world.cache.inflight = [] := by
  cases c with
  | attach buffer b name =>
    have h := (attach_result s hq buffer b name).2.1
    simp only [call]
    split <;> simp_all
  | detach buffer => simpa [call] using hq
  | refresh name =>
    have h := (refresh_result s hq name).2
    simp only [call]
    split <;> simp_all
  | close => simpa [call, (close_result s).2] using hq

theorem calls_quiet (s : Session) (hq : s.world.cache.inflight = []) (cs : List Call) :
    (s.calls cs).1.world.cache.inflight = [] := by
  induction cs generalizing s with
  | nil => exact hq
  | cons c cs ih => exact ih _ (call_quiet s hq c)

/-- **What one call does to the binding of a buffer**: the binding the call says it left,
or the binding the buffer had. -/
theorem isAttached_call (s : Session) (hq : s.world.cache.inflight = []) (c : Call) (b : String) :
    (s.call c).1.isAttached b = (c.binding b (s.call c).2).getD (s.isAttached b) := by
  -- the bindings without those of one buffer
  have hdrop : ∀ buffer, (s.attachments.filter (·.buffer ≠ buffer)).any (·.buffer = b) =
      (decide (buffer ≠ b) && s.isAttached b) := fun buffer => by
    by_cases hb : buffer = b
    · subst hb
      simp
    · simp only [isAttached, hb, ne_eq, not_false_eq_true, decide_true, Bool.true_and,
        List.any_filter]
      congr 1
      funext a
      by_cases ha : a.buffer = b <;> simp [ha, Ne.symm hb]
  cases c with
  | attach buffer obj name =>
    obtain ⟨-, -, hres⟩ := attach_result s hq buffer obj name
    simp only [call]
    generalize s.attach buffer obj name = r at hres
    obtain ⟨s', res⟩ := r
    cases res with
    | ok n =>
      simp only [isAttached]
      rw [hres.2.1, List.any_append, hdrop]
      by_cases hb : buffer = b <;> simp [Call.binding, hb, isAttached]
    | error e =>
      cases e with
      | noSource m =>
        simp only [isAttached]
        rw [hres.1]
        rfl
      | load f =>
        have hatt : s'.attachments = s.attachments.filter (·.buffer ≠ buffer) := by
          cases f with
          | stage e => obtain ⟨-, -, -, h, -⟩ := hres; exact h
          | misuse m => exact hres
        simp only [isAttached]
        rw [hatt, hdrop]
        by_cases hb : buffer = b <;> simp [Call.binding, hb, isAttached]
  | detach buffer =>
    simp only [call, isAttached]
    rw [detach_attachments, hdrop]
    by_cases hb : buffer = b <;> simp [Call.binding, hb, isAttached]
  | refresh name =>
    have hatt := (refresh_result s hq name).1
    simp only [call]
    generalize s.refresh name = r at hatt
    obtain ⟨s', res⟩ := r
    simp only [isAttached] at hatt ⊢
    cases res <;> simp [hatt, Call.binding]
  | close => simp [call, isAttached, (close_result s).1, Call.binding]

/-- **A buffer is bound exactly when the last call that says something of it bound it**;
with no such call, it is bound as it was. -/
theorem isAttached_calls (s : Session) (hq : s.world.cache.inflight = []) (cs : List Call)
    (b : String) :
    (s.calls cs).1.isAttached b = (lastBinding b (s.calls cs).2).getD (s.isAttached b) := by
  induction cs generalizing s with
  | nil => rfl
  | cons c cs ih =>
    show ((s.call c).1.calls cs).1.isAttached b =
      ((lastBinding b ((s.call c).1.calls cs).2).or (c.binding b (s.call c).2)).getD (s.isAttached b)
    rw [ih _ (call_quiet s hq c), isAttached_call s hq c b]
    cases lastBinding b ((s.call c).1.calls cs).2 <;> rfl

/-! ## A session's calls -/

/-- **A session's bindings form a consistent state machine with atomic failures.**  Over any
calls on a session with no load in flight, a buffer is bound exactly when the last call
that says something of it bound it, and every attach made then keeps its contract: bound
to the resolved source with its schema cached, or, if it fails, with the bindings, the
cache and the notices as `AttachContract` says. -/
theorem calls_bindings_consistent (s₀ : Session) (h₀ : s₀.world.cache.inflight = [])
    (cs : List Call) :
    (∀ b, (s₀.calls cs).1.isAttached b = (lastBinding b (s₀.calls cs).2).getD (s₀.isAttached b)) ∧
      ∀ buffer obj name, AttachContract (s₀.calls cs).1 buffer name
        ((s₀.calls cs).1.attach buffer obj name).1 ((s₀.calls cs).1.attach buffer obj name).2 :=
  ⟨isAttached_calls s₀ h₀ cs, fun buffer obj name =>
    (attach_result _ (calls_quiet s₀ h₀ cs) buffer obj name).2.2⟩

/-- A new session over one catalog source has no load in flight: it attaches two buffers, the
first to the default source and the second to the source by name, both attaches succeed, it
detaches the first, and the bindings its calls make are consistent. -/
theorem calls_bindings_consistent_new :
    let s₀ := Session.create {} [("demo", .ofCatalog [])]
    let cs := [Call.attach "a" (Buffer.ofText "SELECT 1") none,
      .attach "b" (Buffer.ofText "SELECT 2") (some "demo"), .detach "a"]
    s₀.world.cache.inflight = [] ∧
      ((s₀.calls cs).2.all fun e => e.2.isNone) = true ∧ (s₀.calls cs).1.isAttached "b" = true ∧
      (∀ b, (s₀.calls cs).1.isAttached b = (lastBinding b (s₀.calls cs).2).getD (s₀.isAttached b)) ∧
      ∀ buffer obj name, AttachContract (s₀.calls cs).1 buffer name
        ((s₀.calls cs).1.attach buffer obj name).1 ((s₀.calls cs).1.attach buffer obj name).2 :=
  ⟨rfl, by decide +kernel, by decide +kernel, calls_bindings_consistent _ rfl _⟩

end Session

end SqlAssist
