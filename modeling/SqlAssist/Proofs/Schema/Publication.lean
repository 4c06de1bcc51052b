import SqlAssist.Proofs.Schema.LoneLoad

/-!
# What a load publishes

A load of a name, run alone, publishes the name's snapshot all at once or not at all.
Either it is done, and the name's snapshot is the one the source's answers make
(`fetchedSnapshot`), or it fails, and the name's snapshot is the one the load found.  No
other name's snapshot changes either way.  A refresh clears the name first and then loads
it, so it does the same from the cache with the name cleared: a refresh that fails leaves
the name with no snapshot.  The source is asked only the load's questions
(`AskedOnly`): the databases, the tables of a database it lists and the columns of a
table it lists, so a database with no tables gets no question for columns.

## Main statements

* `World.perform_lone_settles`: what the plan of a lone load or refresh leaves in the cache.
* `World.load_all_or_nothing`: **a load run alone, with no load of the name in flight, and
  a refresh run alone publish the fetched snapshot of the name or leave every snapshot as
  they found it.**  A source that names things by texts and answers every question gives
  a load that is done.
-/

namespace SqlAssist.Schema

/-- What a lone load or refresh of `name` from the source `src` of the world `w` gives back
and leaves, from the cache `before` it reads: no other name's snapshot changes; it is done
with a snapshot of the name, the fetched one when the source names things by texts, or it
fails with the name's snapshot as before; it is done when the source answers every
question with names that are texts; and a source that names things by texts has been
asked only the load's questions. -/
def LoadSettles (w : World) (before : Cache) (name src : String) (res : World × Outcome) :
    Prop :=
  (∀ n, n ≠ name → res.1.cache.snapshot? n = before.snapshot? n) ∧
    ((res.2 = .done ∧ res.1.cache.has name ∧
        (TextNames (w.sources.lookup src) →
          res.1.cache.snapshot? name = fetchedSnapshot (w.sources.lookup src))) ∨
      ∃ f, res.2 = .failed f ∧ res.1.cache.snapshot? name = before.snapshot? name) ∧
    (TextNames (w.sources.lookup src) → (fetchedSnapshot (w.sources.lookup src)).isSome →
      res.2 = .done) ∧
    (TextNames (w.sources.lookup src) → AskedOnly w.sources src res.1.sources)

/-- A lone load reads the snapshots as it finds them; a refresh clears the name first. -/
theorem Run.loneCache_snapshot? (c : Cache) (name : String) (refresh : Bool) (n : String) :
    (Run.loneCache c name refresh).snapshot? n = (if refresh then c.clear name else c).snapshot? n := by
  cases refresh <;> rfl

/-- **The plan of a lone load or refresh settles** as `LoadSettles` says, from the cache
as found, with the name cleared for a refresh. -/
theorem World.perform_lone_settles (w : World) (name src : String) (refresh : Bool)
    (hfree : refresh = false → w.cache.inflight.lookup name = none) :
    ∃ w' o, w.perform [Run.loneEntry name src refresh] = (w', [some o]) ∧
      LoadSettles w (if refresh then w.cache.clear name else w.cache) name src (w', o) := by
  obtain ⟨r, hq, hinv, hperf⟩ := World.perform_lone w name src refresh hfree
  have hbefore := Run.loneCache_snapshot? w.cache name refresh
  refine ⟨_, _, hperf, fun n hn => ?_, ?_, hinv.done_of_answers hq, hinv.cache.sources.asked⟩
  · rw [← hbefore]
    exact hinv.cache.others n hn
  · rcases hinv.ending_snapshot hq with ⟨hd, hs, hf⟩ | ⟨f, hf, hsnap⟩
    · exact .inl ⟨hd, hs, hf⟩
    · exact .inr ⟨f, hf, hsnap.trans (hbefore name)⟩

/-- **A load run alone publishes all or nothing, and so does a refresh.**  A load of a
name with no load in flight is done with the snapshot the source's answers make, or fails
with every snapshot as it found it; no other name's snapshot changes.  A refresh does the
same from the cache with the name cleared. -/
theorem World.load_all_or_nothing (w : World) (name src : String) :
    (w.cache.inflight.lookup name = none →
      LoadSettles w w.cache name src (w.load name src)) ∧
      LoadSettles w (w.cache.clear name) name src (w.refresh name src) := by
  constructor
  · intro hfree
    obtain ⟨w', o, hperf, hs⟩ := World.perform_lone_settles w name src false fun _ => hfree
    rw [World.load_of_perform hperf]
    exact hs
  · obtain ⟨w', o, hperf, hs⟩ := World.perform_lone_settles w name src true fun h => by cases h
    rw [World.refresh_of_perform hperf]
    exact hs

/-- A load of the demonstration catalog into an empty cache. -/
theorem World.load_all_or_nothing_demo :
    ({ sources := [("demo", .ofCatalog demoCatalog)] } : World).cache.inflight.lookup "demo" = none ∧
      LoadSettles { sources := [("demo", .ofCatalog demoCatalog)] } {} "demo" "demo"
        (({ sources := [("demo", .ofCatalog demoCatalog)] } : World).load "demo" "demo") :=
  ⟨rfl, (World.load_all_or_nothing _ "demo" "demo").1 rfl⟩

end SqlAssist.Schema
