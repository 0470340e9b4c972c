import EventLoop.Kernel.Files
import Mathlib.Tactic.ByContra
import Mathlib.Tactic.Lemma
import Mathlib.Tactic.Tauto

/-!
What watched entries are ready for, and which changes of an endpoint make them ready.

* `hasRoom_eq_false_iff` and `watchReadiness_any_iff` say when an endpoint takes no more and when
  there is something to report about an entry.
* `Kernel.Paired` says that the two ends of a connection know each other.
* `ready_of_setEndpoint` is the main statement here: an entry that becomes ready by a change of an
  endpoint is about this endpoint, or about the one that can write to it again.
* `mem_enqueue` and `nodup_enqueue` are the laws of the queue of entries that may be ready.
-/

namespace EventLoop.Kernel

/-- The ends of a connection know each other, and files get numbers that no file had. -/
structure Paired (k : Kernel) : Prop where
  fresh : ∀ f : FileId, k.files[f]?.isSome → f < k.nextFile
  drawn : ∀ f e, k.endpoint? f = some e → e.peer < k.nextFile
  answers : ∀ f e p, k.endpoint? f = some e → k.endpoint? e.peer = some p → p.peer = f

/-! ### Room and readiness -/

/-- An endpoint takes no more when there is a limit and its inbox has reached it. -/
lemma hasRoom_eq_false_iff {k : Kernel} {f : FileId} :
    k.hasRoom f = false ↔
      ∃ limit e, k.inboxLimit = some limit ∧ k.endpoint? f = some e ∧ limit ≤ e.inbox.length := by
  rw [hasRoom, room]
  split
  · next limit e hl he => simp [hl, he, Nat.sub_eq_zero_iff_le]
  · next hnone =>
      simp only [bne_eq_false_iff_eq, reduceCtorEq, false_iff]
      rintro ⟨limit, e, hl, he, -⟩
      exact hnone limit e hl he

/-- There is something to report about an entry of an endpoint when it asks for input and there is
some, when it asks for room and there is some, or when nothing passes any more or the connection
broke. -/
lemma watchReadiness_any_iff {k : Kernel} {w : Watch} {e : Endpoint}
    (he : k.endpoint? w.file = some e) :
    (k.watchReadiness w).any = true ↔
      w.interest.read = true ∧ (e.inbox ≠ [] ∨ e.inputShut = true) ∨
        w.interest.write = true ∧ k.hasRoom e.peer = true ∨
        e.inputShut = true ∧ e.outputShut = true ∨ e.broken = true := by
  rw [watchReadiness, readiness, he]
  simp only [Readiness.masked, Readiness.any, Bool.or_eq_true, Bool.and_eq_true,
    Bool.not_eq_true', List.isEmpty_eq_false_iff]
  tauto

/-- What is no endpoint is ready for what others decide. -/
lemma watchReadiness_of_source {k : Kernel} {w : Watch} (he : k.endpoint? w.file = none) :
    k.watchReadiness w = ((k.source? w.file).getD .nothing).masked w.interest := by
  rw [watchReadiness, readiness, he]

/-- A file is no endpoint and no source at once. -/
lemma source?_of_endpoint {k : Kernel} {f : FileId} {e : Endpoint} (he : k.endpoint? f = some e) :
    k.source? f = none := by
  rw [endpoint?] at he
  split at he
  · next hf => simp [source?, hf]
  · cases he

/-- An endpoint can be watched. -/
lemma canWatch_of_endpoint {k : Kernel} {f : FileId} (h : (k.endpoint? f).isSome) :
    k.canWatch f = true := by
  rw [canWatch, h, Bool.true_or]

lemma endpoint?_setEndpoint (k : Kernel) (f x : FileId) (e : Endpoint) :
    (k.setEndpoint f e).endpoint? x = if f = x then some e else k.endpoint? x := by
  by_cases hx : f = x
  · simp [setEndpoint, endpoint?, hx]
  · simp [setEndpoint, endpoint?, Std.ExtTreeMap.getElem?_insert, hx]

/-- What a file is depends on nothing else. -/
lemma endpoint?_congr {k k' : Kernel} {f : FileId} (h : k'.files[f]? = k.files[f]?) :
    k'.endpoint? f = k.endpoint? f := by
  rw [endpoint?, endpoint?, h]

lemma source?_congr {k k' : Kernel} {f : FileId} (h : k'.files[f]? = k.files[f]?) :
    k'.source? f = k.source? f := by
  rw [source?, source?, h]

lemma canWatch_congr {k k' : Kernel} {f : FileId} (h : k'.files[f]? = k.files[f]?) :
    k'.canWatch f = k.canWatch f := by
  rw [canWatch, canWatch, endpoint?_congr h, source?_congr h]

lemma source?_setEndpoint (k : Kernel) (f x : FileId) (e : Endpoint) :
    (k.setEndpoint f e).source? x = if f = x then none else k.source? x := by
  by_cases hx : f = x
  · simp [setEndpoint, source?, hx]
  · simp [setEndpoint, source?, Std.ExtTreeMap.getElem?_insert, hx]

/-- A source is no endpoint, whatever it is ready for. -/
lemma endpoint?_setSource {k : Kernel} {f : FileId} {old : Readiness} (hf : k.source? f = some old)
    (state : Readiness) (x : FileId) : (k.setSource f state).endpoint? x = k.endpoint? x := by
  by_cases hx : f = x
  · subst hx
    cases he : k.endpoint? f with
    | none => simp [setSource, endpoint?]
    | some e =>
        rw [source?_of_endpoint he] at hf
        cases hf
  · exact endpoint?_congr (by simp [setSource, Std.ExtTreeMap.getElem?_insert, hx])

lemma source?_setSource (k : Kernel) (f x : FileId) (state : Readiness) :
    (k.setSource f state).source? x = if f = x then some state else k.source? x := by
  by_cases hx : f = x
  · simp [setSource, source?, hx]
  · simp [setSource, source?, Std.ExtTreeMap.getElem?_insert, hx]

/-- What others make of a source concerns its own entries only. -/
lemma watchReadiness_setSource {k : Kernel} {f : FileId} {old : Readiness}
    (hf : k.source? f = some old) (state : Readiness) {w : Watch} (hw : w.file ≠ f) :
    (k.setSource f state).watchReadiness w = k.watchReadiness w := by
  have hends := endpoint?_setSource hf state
  simp only [watchReadiness, readiness, hasRoom, room, hends, source?_setSource, if_neg hw.symm]
  rfl

/-- A change of an endpoint does not concern the entries of what is none. -/
lemma watchReadiness_setEndpoint_of_source {k : Kernel} {f : FileId} {e e' : Endpoint} {w : Watch}
    (he : k.endpoint? f = some e) (hw : k.endpoint? w.file = none) :
    (k.setEndpoint f e').watchReadiness w = k.watchReadiness w := by
  have hne : f ≠ w.file := by
    rintro rfl
    rw [he] at hw
    cases hw
  rw [watchReadiness_of_source hw, watchReadiness_of_source, source?_setEndpoint, if_neg hne]
  rw [endpoint?_setEndpoint, if_neg hne, hw]

/-- A change of an endpoint makes room at this endpoint only, and only by taking something out of
its inbox. -/
lemma hasRoom_of_setEndpoint {k : Kernel} {f x : FileId} {e e' : Endpoint}
    (he : k.endpoint? f = some e) (h : (k.setEndpoint f e').hasRoom x = true) :
    k.hasRoom x = true ∨ x = f ∧ e'.inbox.length < e.inbox.length := by
  by_contra hno
  rw [not_or, Bool.not_eq_true, hasRoom_eq_false_iff] at hno
  obtain ⟨⟨limit, p, hl, hp, hfull⟩, hless⟩ := hno
  have hnot : (k.setEndpoint f e').hasRoom x = false := by
    by_cases hx : f = x
    · subst hx
      rw [he, Option.some.injEq] at hp
      subst hp
      have hge : e.inbox.length ≤ e'.inbox.length :=
        Nat.le_of_not_lt fun hlt => hless ⟨rfl, hlt⟩
      have hle : limit ≤ e'.inbox.length := by omega
      exact hasRoom_eq_false_iff.mpr ⟨limit, e', hl, by rw [endpoint?_setEndpoint, if_pos rfl], hle⟩
    · exact hasRoom_eq_false_iff.mpr
        ⟨limit, p, hl, by rw [endpoint?_setEndpoint, if_neg hx, hp], hfull⟩
  rw [hnot] at h
  cases h

/-- **An entry that becomes ready by a change of an endpoint** is about this endpoint, for what the
endpoint is now, or it waits for room in the inbox of the endpoint, and something was taken out. -/
theorem ready_of_setEndpoint {k : Kernel} {f : FileId} {e e' : Endpoint} {w : Watch}
    (he : k.endpoint? f = some e) (h : ((k.setEndpoint f e').watchReadiness w).any = true)
    (hpeer : e'.peer = e.peer) :
    (k.watchReadiness w).any = true ∨
      (w.file = f ∧ (w.interest.read = true ∧ (e'.inbox ≠ [] ∨ e'.inputShut = true) ∨
        e'.inputShut = true ∧ e'.outputShut = true ∨ e'.broken = true)) ∨
      (w.interest.write = true ∧ e'.inbox.length < e.inbox.length ∧ k.hasRoom f = false ∧
        ∃ x, k.endpoint? w.file = some x ∧ x.peer = f) := by
  by_cases hsource : k.endpoint? w.file = none
  · rw [watchReadiness_setEndpoint_of_source he hsource] at h
    exact .inl h
  obtain ⟨x', hx'⟩ : ∃ x', (k.setEndpoint f e').endpoint? w.file = some x' := by
    rw [endpoint?_setEndpoint]
    split
    · exact ⟨e', rfl⟩
    · exact Option.ne_none_iff_exists'.mp hsource
  have hready := (watchReadiness_any_iff hx').mp h
  -- the endpoint of the entry as it was before, with the same peer
  obtain ⟨x, hx, hxpeer, hsame⟩ : ∃ x, k.endpoint? w.file = some x ∧ x'.peer = x.peer ∧
      (f = w.file ∧ x' = e' ∨ x' = x) := by
    rw [endpoint?_setEndpoint] at hx'
    split at hx'
    · next hf =>
        cases hx'
        exact ⟨e, hf ▸ he, hpeer, .inl ⟨hf, rfl⟩⟩
    · exact ⟨x', hx', rfl, .inr rfl⟩
  rw [watchReadiness_any_iff hx]
  rw [hxpeer] at hready
  have hroom (hr : (k.setEndpoint f e').hasRoom x.peer = true) := hasRoom_of_setEndpoint he hr
  by_cases hw : w.interest.write = true ∧ (k.setEndpoint f e').hasRoom x.peer = true ∧
      k.hasRoom x.peer = false
  · obtain ⟨hwrite, hnow, hbefore⟩ := hw
    rcases hroom hnow with hr | ⟨hpf, hless⟩
    · rw [hbefore] at hr
      cases hr
    · exact .inr (.inr ⟨hwrite, hless, hpf ▸ hbefore, x, hx, hpf⟩)
  · rcases hsame with ⟨hf, rfl⟩ | rfl
    · rcases hready with hr | ⟨hwrite, hr⟩ | hr | hr
      · exact .inr (.inl ⟨hf.symm, .inl hr⟩)
      · have hold : k.hasRoom x.peer = true := by
          by_contra hno
          exact hw ⟨hwrite, hr, by simpa using hno⟩
        exact .inl (.inr (.inl ⟨hwrite, hold⟩))
      · exact .inr (.inl ⟨hf.symm, .inr (.inl hr)⟩)
      · exact .inr (.inl ⟨hf.symm, .inr (.inr hr)⟩)
    · refine .inl ?_
      rcases hready with hr | ⟨hwrite, hr⟩ | hr
      · exact .inl hr
      · have hold : k.hasRoom x'.peer = true := by
          by_contra hno
          exact hw ⟨hwrite, hr, by simpa using hno⟩
        exact .inr (.inl ⟨hwrite, hold⟩)
      · exact .inr (.inr hr)

/-! ### The queue of entries that may be ready -/

lemma mem_enqueue {k : Kernel} {keys : List WatchKey} {key : WatchKey} :
    key ∈ (k.enqueue keys).ready ↔ key ∈ k.ready ∨ key ∈ keys := by
  rw [enqueue]
  generalize k.ready = ready
  induction keys generalizing ready with
  | nil => simp
  | cons first keys ih =>
      rw [List.foldl_cons, ih]
      split
      · next hmem =>
          simp only [List.mem_cons]
          constructor
          · tauto
          · rintro (hr | rfl | hk)
            · exact .inl hr
            · exact .inl hmem
            · exact .inr hk
      · simp only [List.mem_append, List.mem_cons]
        tauto

lemma nodup_enqueue {k : Kernel} (h : k.ready.Nodup) (keys : List WatchKey) :
    (k.enqueue keys).ready.Nodup := by
  rw [enqueue]
  generalize k.ready = ready at h
  induction keys generalizing ready with
  | nil => exact h
  | cons first keys ih =>
      rw [List.foldl_cons]
      split
      · exact ih ready h
      · next hnot =>
          refine ih _ (List.nodup_append.mpr ⟨h, by simp, ?_⟩)
          intro a ha b hb
          rw [List.mem_singleton] at hb
          rintro rfl
          exact hnot (hb ▸ ha)

/-- The entries of a file that a condition picks are queued by an alert. -/
lemma mem_alert {k : Kernel} {f : FileId} {picks : Watch → Bool} {w : Watch} (hw : w ∈ k.watches)
    (hf : w.file = f) (hp : picks w = true) : w.key ∈ (k.alert f picks).ready := by
  rw [alert, mem_enqueue]
  refine .inr (List.mem_map_of_mem ?_)
  rw [List.mem_filter]
  exact ⟨hw, by simp [hf, hp]⟩

end EventLoop.Kernel
