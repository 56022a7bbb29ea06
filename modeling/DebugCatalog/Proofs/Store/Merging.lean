import DebugCatalog.Proofs.Store.Recording

/-!
# What is loaded of a binary

If runs of different parsers over a new binary are recorded one after the other, then
these are the runs that count, in the order in which they were recorded
(`Recorded.currentRuns_of_new`).  What is loaded of the binary is their findings, merged in
that order: `Recorded.loadBinary_of_new`.
-/

namespace DebugCatalog

namespace Store

variable {s s' : Store} {rs : List (RunRecord × Collector)} {ids : List Int}

/-- Entries of different parsers are all the last of theirs. -/
theorem lastOfEach_eq_self {xs : List (Int × String)} (h : (xs.map Prod.snd).Nodup) :
    lastOfEach xs = xs := by
  induction xs with
  | nil => rfl
  | cons x xs ih =>
    obtain ⟨id, parser⟩ := x
    obtain ⟨hfresh, hdistinct⟩ := List.nodup_cons.1 h
    have hnone : (xs.any fun x => x.2 == parser) = false := by
      rw [List.any_eq_false]
      intro x hx heq
      exact hfresh (List.mem_map.2 ⟨x, hx, eq_of_beq heq⟩)
    rw [lastOfEach, if_neg (by rw [hnone]; decide), ih hdistinct]

theorem Recorded.length_eq (h : Recorded s rs ids s') : ids.length = rs.length := by
  induction h with
  | nil s => rfl
  | cons _ _ ih => rw [List.length_cons, List.length_cons, ih]

/-- Runs of different parsers over a new binary are the ones that count. -/
theorem Recorded.currentRuns_of_new (h : Recorded s rs ids s') {binary : String}
    {t : Numbered StoredRun} (ht : s.runs = some t) (hnew : ∀ row ∈ t.rows, row.2.binary ≠ binary)
    (hbinary : ∀ r ∈ rs, r.1.binary = binary) (hparsers : (rs.map fun r => r.1.parser).Nodup) :
    s'.currentRuns binary none = .ok ids := by
  obtain ⟨t', ht', hrows⟩ := h.exists_rows ht
  have hold : t.rows.filter (fun row => row.2.binary == binary) = [] := by
    rw [List.filter_eq_nil_iff]
    exact fun row hrow heq => hnew row hrow (eq_of_beq heq)
  have hall : (ids.zip (rs.map fun r => StoredRun.ofRecord r.1)).filter
      (fun row => row.2.binary == binary) = ids.zip (rs.map fun r => StoredRun.ofRecord r.1) := by
    rw [List.filter_eq_self]
    rintro ⟨id, run⟩ hrow
    obtain ⟨r, hr, rfl⟩ := List.mem_map.1 (List.of_mem_zip hrow).2
    exact beq_iff_eq.2 (hbinary r hr)
  have hchosen : (ids.zip (rs.map fun r => StoredRun.ofRecord r.1)).map
      (fun row => (row.1, row.2.parser)) = ids.zip (rs.map fun r => r.1.parser) := by
    rw [List.zip_map_right, List.zip_map_right, List.map_map]
    rfl
  have hlast : lastOfEach (ids.zip (rs.map fun r => r.1.parser)) =
      ids.zip (rs.map fun r => r.1.parser) := by
    apply lastOfEach_eq_self
    rwa [List.map_snd_zip (by rw [List.length_map, h.length_eq])]
  have hlatest : s'.latestRuns binary = .ok (ids.zip (rs.map fun r => r.1.parser)) := by
    rw [latestRuns, need_eq_ok_iff.2 ht']
    change Except.ok (lastOfEach ((t'.rows.filter fun row => row.2.binary == binary).map
      fun row => (row.1, row.2.parser))) = _
    rw [hrows, List.filter_append, hold, List.nil_append, hall, hchosen, hlast]
  rw [currentRuns, hlatest]
  change Except.ok ((ids.zip (rs.map fun r => r.1.parser)).map Prod.fst) = _
  rw [List.map_fst_zip (by rw [List.length_map, h.length_eq])]

/-- **What is loaded of a new binary** is what was recorded of it, merged in that order. -/
theorem Recorded.loadBinary_of_new (h : Recorded s rs ids s') (hs : s.Reached) {binary : String}
    (hnew : ∀ t, s.runs = some t → ∀ row ∈ t.rows, row.2.binary ≠ binary)
    (hbinary : ∀ r ∈ rs, r.1.binary = binary) (hparsers : (rs.map fun r => r.1.parser).Nodup)
    (hsound : ∀ r ∈ rs, r.2.Sound) (hshallow : ∀ r ∈ rs, r.2.IsShallow)
    (hfrom : ∀ r ∈ rs, r.2.IsFrom r.1.parser) :
    s'.loadBinary binary none =
      .ok ((rs.map Prod.snd).foldl (fun merged c => (merged.merge c).1) .empty) := by
  obtain ⟨t, ht⟩ := hs.intact.runs
  obtain ⟨loaded, hload, hcredited⟩ := h.exists_loaded hs hsound hshallow
  have hsame : List.Forall₂ Collector.SameEntries loaded (rs.map Prod.snd) := by
    have hboth := (List.forall₂_and_left rs loaded).2 ⟨hfrom, hcredited.flip⟩
    rw [List.forall₂_map_right_iff]
    exact (hboth.imp fun r l h => Collector.CreditedTo.sameEntries h.2 h.1).flip
  rw [loadBinary, h.currentRuns_of_new ht (hnew t ht) hbinary hparsers]
  change (ids.mapM s'.loadFindings >>= _) = _
  rw [hload]
  exact congrArg Except.ok (Collector.foldl_merge_congr hsame .empty)

end Store

end DebugCatalog
