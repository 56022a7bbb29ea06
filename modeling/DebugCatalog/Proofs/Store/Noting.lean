import DebugCatalog.Proofs.Store.FirstWrite

/-!
# Noting binaries and runs

A new row goes to the end of its table, under a number that no row has
(`Numbered.find?_next`).  Here is all that the operations do which note something:
`insertBinary_eq_ok_iff`, `insertRun_eq_ok_iff` and `recordRun_eq_ok_iff`.  A binary that was
noted stays known (`Knows`), and a run is read as it was noted (`toRecord_ofRecord`).
-/

namespace DebugCatalog

namespace Numbered

variable {α : Type} (t : Numbered α)

theorem find?_next : t.find? t.next = none := by
  rw [find?, List.lookup_eq_none_iff]
  intro row hrow
  exact bne_iff_ne.2 (Int.ne_of_gt (t.lt_next hrow))

theorem find?_push (a : α) (number : Int) :
    (t.push a).find? number = if number = t.next then some a else t.find? number := by
  rw [find?, rows_push, List.lookup_append]
  by_cases h : number = t.next
  · have hnone : t.rows.lookup number = none := by rw [h]; exact t.find?_next
    rw [if_pos h, hnone, Option.none_or, List.lookup_cons, h, beq_self_eq_true]
  · rw [if_neg h, List.lookup_cons, beq_eq_false_iff_ne.2 h, List.lookup_nil, Option.or_none, find?]

theorem foldl_max_eq_self {xs : List Int} {a : Int} (h : ∀ x ∈ xs, x ≤ a) : xs.foldl max a = a := by
  induction xs with
  | nil => rfl
  | cons x xs ih =>
    obtain ⟨hx, hxs⟩ := List.forall_mem_cons.1 h
    rw [List.foldl_cons, Int.max_eq_left hx, ih hxs]

/-- The number of the new row is the largest. -/
theorem largest_push (a : α) : (t.push a).largest = t.next := by
  refine foldl_max_eq_self fun number hnumber => ?_
  rw [rows_push, List.map_append] at hnumber
  rcases List.mem_append.1 hnumber with hold | hnew
  · obtain ⟨row, hrow, rfl⟩ := List.mem_map.1 hold
    exact Int.le_of_lt (t.lt_next hrow)
  · exact Int.le_of_eq (List.mem_singleton.1 hnew)

end Numbered

/-! ### Runs read back -/

theorem RunStatus.parse_name (status : RunStatus) : parse status.name = .ok status := by
  cases status with
  | succeeded => rfl
  | failed => rfl

/-- A run is read as it was written. -/
theorem StoredRun.toRecord_ofRecord (r : RunRecord) : (ofRecord r).toRecord = .ok r := by
  rw [toRecord]
  simp only [ofRecord, RunStatus.parse_name, Word.ofSigned_toSigned]

namespace Store

variable {s s' : Store} {id : Int}

theorem need_eq_ok_iff {α : Type} {table : StoreTable} {o : Option α} {a : α} :
    need table o = .ok a ↔ o = some a := by
  cases o with
  | none => exact ⟨nofun, nofun⟩
  | some b => exact ⟨fun h => congrArg some (Except.ok.inj h), fun h => h ▸ rfl⟩

theorem pushRow_eq_ok_iff {α : Type} {t t' : Numbered α} {a : α} :
    pushRow t a = .ok (t', id) ↔ t.next ≤ Numbered.maxNumber ∧ t' = t.push a ∧ id = t.next := by
  unfold pushRow
  split
  · next h => exact ⟨nofun, fun h' => absurd h'.1 (Int.not_le.2 h)⟩
  · next h =>
    constructor
    · intro h'
      cases h'
      exact ⟨Int.not_lt.1 h, rfl, rfl⟩
    · rintro ⟨-, rfl, rfl⟩
      rfl

theorem need_eq_error_iff {α : Type} {table : StoreTable} {o : Option α} {e : StoreError} :
    need table o = .error e ↔ o = none ∧ e = .missingTable table := by
  cases o with
  | none => exact ⟨fun h => ⟨rfl, (Except.error.inj h).symm⟩, fun h => h.2 ▸ rfl⟩
  | some a => exact ⟨nofun, nofun⟩

theorem pushRow_eq_error_iff {α : Type} {t : Numbered α} {a : α} {e : StoreError} :
    pushRow t a = .error e ↔ Numbered.maxNumber < t.next ∧ e = .noMoreNumbers := by
  unfold pushRow
  split
  · next h => exact ⟨fun h' => ⟨h, (Except.error.inj h').symm⟩, fun h' => h'.2 ▸ rfl⟩
  · next h => exact ⟨nofun, fun h' => absurd h'.1 h⟩

/-- All that it takes to note a binary, and all that it does. -/
theorem insertBinary_eq_ok_iff {b : BinaryRecord} :
    s.insertBinary b = .ok (s', id) ↔
      ∃ t, s.binaries = some t ∧ (∀ known ∈ t.contents, known.name ≠ b.name) ∧
        t.next ≤ Numbered.maxNumber ∧ id = t.next ∧
          s' = { s with binaries := some (t.push b) } := by
  constructor
  · intro h
    obtain ⟨t, ht, h⟩ := exists_of_bind_eq_ok h
    split at h
    · cases h
    · next hfree =>
      obtain ⟨⟨t', id'⟩, hpush, h⟩ := exists_of_bind_eq_ok h
      obtain ⟨hroom, rfl, rfl⟩ := pushRow_eq_ok_iff.1 hpush
      cases h
      refine ⟨t, need_eq_ok_iff.1 ht, ?_, hroom, rfl, rfl⟩
      intro known hknown heq
      exact hfree (List.any_eq_true.2 ⟨known, hknown, beq_iff_eq.2 heq⟩)
  · rintro ⟨t, ht, hfree, hroom, rfl, rfl⟩
    have hany : (t.contents.any fun known => known.name == b.name) = false := by
      rw [List.any_eq_false]
      intro known hknown
      exact fun heq => hfree known hknown (beq_iff_eq.1 heq)
    rw [insertBinary, need_eq_ok_iff.2 ht]
    simp only [bind, Except.bind, hany, pushRow_eq_ok_iff.2 ⟨hroom, rfl, rfl⟩]
    rfl

theorem insertBinary_of_full {b : BinaryRecord} {t : Numbered BinaryRecord}
    (ht : s.binaries = some t) (hfree : ∀ known ∈ t.contents, known.name ≠ b.name)
    (hfull : Numbered.maxNumber < t.next) : s.insertBinary b = .error .noMoreNumbers := by
  have hany : (t.contents.any fun known => known.name == b.name) = false :=
    List.any_eq_false.2 fun known hknown heq => hfree known hknown (beq_iff_eq.1 heq)
  rw [insertBinary, need_eq_ok_iff.2 ht]
  simp only [bind, Except.bind, hany, pushRow_eq_error_iff.2 ⟨hfull, rfl⟩]
  rfl

/-- The store has noted a binary of this name. -/
def Knows (s : Store) (name : String) : Prop :=
  ∃ t, s.binaries = some t ∧ ∃ b ∈ t.contents, b.name = name

theorem knows_of_insertBinary {b : BinaryRecord} (h : s.insertBinary b = .ok (s', id)) :
    s'.Knows b.name := by
  obtain ⟨t, -, -, -, -, rfl⟩ := insertBinary_eq_ok_iff.1 h
  refine ⟨t.push b, rfl, b, ?_, rfl⟩
  rw [Numbered.contents_push]
  exact List.mem_append_right _ (List.mem_singleton_self b)

theorem Knows.insertBinary {name : String} (hs : s.Knows name) {b : BinaryRecord}
    (h : s.insertBinary b = .ok (s', id)) : s'.Knows name := by
  obtain ⟨u, hu, known, hknown, hname⟩ := hs
  obtain ⟨t, ht, -, -, -, rfl⟩ := insertBinary_eq_ok_iff.1 h
  obtain rfl := Option.some.inj (hu.symm.trans ht)
  refine ⟨u.push b, rfl, known, ?_, hname⟩
  rw [Numbered.contents_push]
  exact List.mem_append_left _ hknown

/-- All that it takes to note a run, and all that it does. -/
theorem insertRun_eq_ok_iff {r : RunRecord} :
    s.insertRun r = .ok (s', id) ↔
      ∃ t, s.runs = some t ∧ t.next ≤ Numbered.maxNumber ∧ id = t.next ∧
        s' = { s with runs := some (t.push (.ofRecord r)) } := by
  constructor
  · intro h
    obtain ⟨t, ht, h⟩ := exists_of_bind_eq_ok h
    obtain ⟨⟨t', id'⟩, hpush, h⟩ := exists_of_bind_eq_ok h
    obtain ⟨hroom, rfl, rfl⟩ := pushRow_eq_ok_iff.1 hpush
    cases h
    exact ⟨t, need_eq_ok_iff.1 ht, hroom, rfl, rfl⟩
  · rintro ⟨t, ht, hroom, rfl, rfl⟩
    rw [insertRun, need_eq_ok_iff.2 ht]
    simp only [bind, Except.bind, pushRow_eq_ok_iff.2 ⟨hroom, rfl, rfl⟩]

/-- A run is recorded in two steps. -/
theorem recordRun_eq_ok_iff {r : RunRecord} {c : Collector} :
    s.recordRun r c = .ok (s', id) ↔
      ∃ noted, s.insertRun r = .ok (noted, id) ∧ noted.writeFindings id c = .ok s' := by
  constructor
  · intro h
    obtain ⟨⟨noted, id'⟩, hnoted, h⟩ := exists_of_bind_eq_ok h
    obtain ⟨written, hwritten, h⟩ := exists_of_bind_eq_ok h
    cases h
    exact ⟨noted, hnoted, hwritten⟩
  · rintro ⟨noted, hnoted, hwritten⟩
    rw [recordRun, hnoted]
    simp only [bind, Except.bind, hwritten]

theorem binaries_of_recordRun {r : RunRecord} {c : Collector}
    (h : s.recordRun r c = .ok (s', id)) : s'.binaries = s.binaries := by
  obtain ⟨noted, hnoted, hwritten⟩ := recordRun_eq_ok_iff.1 h
  obtain ⟨t, -, -, -, rfl⟩ := insertRun_eq_ok_iff.1 hnoted
  rw [eq_of_writeFindings hwritten]

/-- The findings stay as they are. -/
theorem tables_of_insertRun {r : RunRecord} (h : s.insertRun r = .ok (s', id)) :
    s'.types = s.types ∧ s'.functions = s.functions ∧ s'.parameters = s.parameters := by
  obtain ⟨t, -, -, -, rfl⟩ := insertRun_eq_ok_iff.1 h
  exact ⟨rfl, rfl, rfl⟩

theorem run?_of_insertRun {r : RunRecord} (h : s.insertRun r = .ok (s', id)) (run : Int) :
    s'.run? run = if run = id then some (.ofRecord r) else s.run? run := by
  obtain ⟨t, ht, -, rfl, rfl⟩ := insertRun_eq_ok_iff.1 h
  rw [run?, run?, ht, Option.bind_some, Option.bind_some, Numbered.find?_push]

/-- The number of a new run was not that of any run. -/
theorem run?_eq_none_of_insertRun {r : RunRecord} (h : s.insertRun r = .ok (s', id)) :
    s.run? id = none := by
  obtain ⟨t, ht, -, rfl, -⟩ := insertRun_eq_ok_iff.1 h
  rw [run?, ht, Option.bind_some, Numbered.find?_next]

end Store

end DebugCatalog
