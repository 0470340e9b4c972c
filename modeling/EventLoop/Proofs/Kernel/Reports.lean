import EventLoop.Proofs.Kernel.Attention
import Mathlib.Data.List.Perm.Subperm

/-!
The watched entries that a wait reports.

* `Kernel.reported` are these entries; `Kernel.eventOf` is the event that a report of an entry
  makes, and `Kernel.readyEntries` counts what there is to report, the wakeup counter included.
* `poll_events` says that the events of a poll are those of the reported entries, in their order;
  `poll_unbroken` and `most_le_of_poll` say what a poll that succeeds needs, and `exists_poll` that
  it needs no more.
* `Attentive.ready_of_reported` and `Attentive.reported_nodup` say that a reported entry is ready
  and is reported once, `Attentive.mem_reported` that with room for all of them none is left out,
  and `Attentive.exists_poll_woken` the same of the wakeup counter.
-/

namespace EventLoop.Kernel

/-- The watched entry with a key. -/
def watchAt? (k : Kernel) : WatchKey → Option Watch
  | .wakeup => none
  | .entry f fd => k.watch? f fd

/-- The watched entries that a wait for so many of them reports, in the order of the reports. -/
def reported (k : Kernel) (most : Nat) : List Watch :=
  (k.collect most k.ready).reported.filterMap k.watchAt?

/-- The event that a report of an entry makes. -/
def eventOf (k : Kernel) (w : Watch) : Event := Report.event ⟨w.token, k.watchReadiness w⟩

/-- How many entries of the watched set are ready, the wakeup counter included. -/
def readyEntries (k : Kernel) : Nat :=
  k.watches.countP (fun w => (k.watchReadiness w).any) + if k.wakeup.isRaised then 1 else 0

lemma key_of_watchAt? {k : Kernel} {key : WatchKey} {w : Watch} (h : k.watchAt? key = some w) :
    w ∈ k.watches ∧ w.key = key := by
  cases key with
  | wakeup => cases h
  | entry f fd =>
      obtain ⟨hmem, hfile, hfd⟩ := watch?_eq_some h
      exact ⟨hmem, by rw [Watch.key, hfile, hfd]⟩

/-- What there is to report about an entry, but not about the wakeup counter, makes an event. -/
lemma event_of_report? {k : Kernel} (htokens : ∀ w ∈ k.watches, w.token ≠ .wakeup) {key : WatchKey}
    (h : (k.report? key).isSome) :
    ((k.report? key).filter (·.token != .wakeup)).map Report.event =
      (k.watchAt? key).map k.eventOf := by
  cases key with
  | wakeup =>
      rw [report?] at h ⊢
      split
      · rfl
      · rfl
  | entry f fd =>
      simp only [report?, watchAt?] at h ⊢
      cases hw : k.watch? f fd with
      | none => rfl
      | some w =>
          rw [hw] at h
          have hany : (k.watchReadiness w).any = true := by
            by_contra hnot
            simp [hnot] at h
          have htoken := htokens w (watch?_eq_some hw).1
          simp [hany, htoken, eventOf]

/-- **The events of a poll** are those of the entries that are reported. -/
theorem poll_events {k k' : Kernel} {most : Nat} {batch : Batch}
    (htokens : ∀ w ∈ k.watches, w.token ≠ .wakeup) (h : k.poll most = .ok (k', batch)) :
    batch.events = (k.reported most).map k.eventOf := by
  obtain ⟨k₁, reports, hwait, rfl, -⟩ := poll_eq_ok h
  obtain ⟨-, -, rfl, -⟩ := wait_eq_ok hwait
  rw [Batch.ofReports, collect_reports_eq, List.filter_filterMap, List.map_filterMap, reported,
    List.map_filterMap]
  refine List.filterMap_congr fun key hkey => event_of_report? htokens ?_
  rw [collect_reported] at hkey
  exact (List.mem_filter.mp (List.mem_of_mem_take hkey)).2

lemma poll_unbroken {k k' : Kernel} {most : Nat} {batch : Batch}
    (h : k.poll most = .ok (k', batch)) : k.watchingBroken = false := by
  obtain ⟨k₁, reports, hwait, -⟩ := poll_eq_ok h
  exact (wait_eq_ok hwait).1

/-- A poll that succeeds is for no more entries than a wait can be asked for. -/
lemma most_le_of_poll {k k' : Kernel} {most : Nat} {batch : Batch}
    (h : k.poll most = .ok (k', batch)) : most ≤ mostReports := by
  obtain ⟨k₁, reports, hwait, -⟩ := poll_eq_ok h
  by_contra hmost
  rw [wait, if_pos (by simp [Nat.lt_of_not_le hmost])] at hwait
  cases hwait

variable {k : Kernel}

lemma Attentive.ready_of_reported (hk : k.Attentive) {most : Nat} {w : Watch}
    (hw : w ∈ k.reported most) : w ∈ k.watches ∧ (k.watchReadiness w).any = true := by
  obtain ⟨key, hkey, hat⟩ := List.mem_filterMap.mp hw
  obtain ⟨hmem, rfl⟩ := key_of_watchAt? hat
  refine ⟨hmem, ?_⟩
  rw [collect_reported] at hkey
  have hreport := (List.mem_filter.mp (List.mem_of_mem_take hkey)).2
  rw [hk.report?_eq hmem] at hreport
  by_contra hnot
  simp [hnot] at hreport

lemma Attentive.reported_nodup (hk : k.Attentive) (most : Nat) : (k.reported most).Nodup := by
  have hsublist := (List.sublist_append_left _ _).trans (collect_sublist k most k.ready)
  refine (hk.nodup.sublist hsublist).filterMap ?_
  intro key key' w hkey hkey'
  rw [← (key_of_watchAt? hkey).2, ← (key_of_watchAt? hkey').2]

/-- There is no more in the queue to be reported than there are ready entries. -/
lemma Attentive.length_le_readyEntries (hk : k.Attentive) :
    (k.ready.filter fun key => (k.report? key).isSome).length ≤ k.readyEntries := by
  have hsubset : k.ready.filter (fun key => (k.report? key).isSome) ⊆
      (k.watches.filter fun w => (k.watchReadiness w).any).map Watch.key ++
        if k.wakeup.isRaised then [.wakeup] else [] := by
    intro key hkey
    obtain ⟨-, hreport⟩ := List.mem_filter.mp hkey
    cases key with
    | wakeup =>
        rw [report?] at hreport
        split at hreport
        · next hraised => simp [hraised]
        · cases hreport
    | entry f fd =>
        obtain ⟨w, hw⟩ : ∃ w, k.watch? f fd = some w := by
          by_contra hnone
          rw [not_exists, ← Option.eq_none_iff_forall_ne_some] at hnone
          simp [report?, hnone] at hreport
        obtain ⟨hmem, rfl, rfl⟩ := watch?_eq_some hw
        have hany : (k.watchReadiness w).any = true := by
          by_contra hnot
          simp [report?, hw, hnot] at hreport
        refine List.mem_append_left _ (List.mem_map.mpr ⟨w, ?_, rfl⟩)
        exact List.mem_filter.mpr ⟨hmem, hany⟩
  have hlength := (List.subperm_of_subset (hk.nodup.filter _) hsubset).length_le
  rw [List.length_append, List.length_map] at hlength
  rw [readyEntries, List.countP_eq_length_filter]
  by_cases hraised : k.wakeup.isRaised = true
  · rwa [if_pos hraised] at hlength ⊢
  · rwa [if_neg hraised] at hlength ⊢

/-- **With room for every ready entry, a wait reports them all.** -/
theorem Attentive.mem_reported (hk : k.Attentive) {most : Nat} (hroom : k.readyEntries ≤ most)
    {w : Watch} (hw : w ∈ k.watches) (hready : (k.watchReadiness w).any = true) :
    w ∈ k.reported most := by
  refine List.mem_filterMap.mpr ⟨w.key, ?_, hk.watch?_eq hw⟩
  rw [collect_reported, List.take_of_length_le (hk.length_le_readyEntries.trans hroom)]
  refine List.mem_filter.mpr ⟨hk.queued w hw hready, ?_⟩
  rw [hk.report?_eq hw, if_pos hready]
  rfl

/-- A set that is not broken can be polled for as many entries as a wait can be asked for. -/
lemma exists_poll {most : Nat} (unbroken : k.watchingBroken = false) (hpos : most ≠ 0)
    (hmost : most ≤ mostReports) :
    ∃ k', k.poll most = .ok (k', .ofReports (k.collect most k.ready).reports) := by
  have hwait : k.wait most = .ok ({ k with
      ready := (k.collect most k.ready).untouched ++ (k.collect most k.ready).reported },
      (k.collect most k.ready).reports) := by
    rw [wait, if_neg]
    simp [unbroken, hpos, hmost]
  exact ⟨_, by rw [poll, hwait]; rfl⟩

/-- With room for every ready entry, a wait that finds the wakeup counter raised brings a wakeup. -/
lemma Attentive.exists_poll_woken (hk : k.Attentive) {most : Nat}
    (unbroken : k.watchingBroken = false) (hmost : most ≤ mostReports)
    (hroom : k.readyEntries ≤ most) (hraised : k.wakeup.isRaised = true) :
    ∃ k' batch, k.poll most = .ok (k', batch) ∧ batch.woken = true := by
  have hreport : k.report? .wakeup =
      some ⟨.wakeup, { Readiness.nothing with input := true }⟩ := by
    rw [report?, if_pos hraised]
  have hpos : most ≠ 0 := by
    rw [readyEntries, if_pos hraised] at hroom
    omega
  obtain ⟨k', hpoll⟩ := exists_poll unbroken hpos hmost
  refine ⟨k', _, hpoll, ?_⟩
  rw [Batch.ofReports, List.any_eq_true]
  refine ⟨⟨.wakeup, { Readiness.nothing with input := true }⟩, ?_, by simp⟩
  rw [collect_reports_eq, List.mem_filterMap]
  refine ⟨.wakeup, ?_, hreport⟩
  rw [collect_reported, List.take_of_length_le (hk.length_le_readyEntries.trans hroom)]
  exact List.mem_filter.mpr ⟨hk.heard hraised, by rw [hreport]; rfl⟩

end EventLoop.Kernel
