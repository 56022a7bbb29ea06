import DebugCatalog.Proofs.Store.Calls
import DebugCatalog.Proofs.Store.References

/-!
# Binaries that are known

The table of binaries takes a record only if no other has its name, and nothing ever changes
a record or takes it out.  So what the table has is decided by the calls that entered something:
`binaries_of_calls` says what is listed and found after any calls, and which of them are refused.

The invariant is `Entered`: after calls that entered `done` the rows are these, under the
numbers that were given for them.  That names are distinct is so of every store that is reached
by use.
-/

namespace DebugCatalog

/-- If keys are distinct, what is found under a key is the only one that has it. -/
theorem find?_key_eq_some_iff {α κ : Type} [BEq κ] [LawfulBEq κ] {key : α → κ} {l : List α}
    (h : (l.map key).Nodup) {k : κ} {a : α} :
    (l.find? fun x => key x == k) = some a ↔ a ∈ l ∧ key a = k := by
  have hkey : ∀ {x}, (l.find? fun x => key x == k) = some x → key x = k :=
    fun hx => eq_of_beq (List.find?_some hx :)
  constructor
  · exact fun ha => ⟨List.mem_of_find?_eq_some ha, hkey ha⟩
  · rintro ⟨ha, hk⟩
    have hsome : (l.find? fun x => key x == k).isSome = true :=
      List.find?_isSome.2 ⟨a, ha, beq_iff_eq.2 hk⟩
    obtain ⟨x, hx⟩ := Option.isSome_iff_exists.1 hsome
    rw [hx, List.inj_on_of_nodup_map h (List.mem_of_find?_eq_some hx) ha ((hkey hx).trans hk.symm)]

namespace Store

variable {s s' : Store} {b : BinaryRecord} {id : Int} {done : List (BinaryRecord × Int)}

/-! ### A binary and its name -/

theorem insertBinary_of_known {t : Numbered BinaryRecord} (ht : s.binaries = some t)
    (h : ∃ known ∈ t.contents, known.name = b.name) :
    s.insertBinary b = .error .duplicateBinary := by
  obtain ⟨known, hknown, hname⟩ := h
  have hany : (t.contents.any fun r => r.name == b.name) = true :=
    List.any_eq_true.2 ⟨known, hknown, beq_iff_eq.2 hname⟩
  rw [insertBinary, need_eq_ok_iff.2 ht]
  simp only [bind, Except.bind, hany, if_pos]

/-! ### Calls that enter binaries -/

/-- A call that is to enter a binary. -/
def enterBinary (b : BinaryRecord) (s : Store) : Except StoreError Int × Store :=
  settled s (s.insertBinary b)

/-- The binaries that were entered have the rows of the table. -/
structure Entered (done : List (BinaryRecord × Int)) (s : Store) : Prop where
  reached : s.Reached
  table : ∃ t, s.binaries = some t ∧ t.Holds (done.map Prod.swap)

theorem entered_fresh : Entered [] fresh :=
  ⟨.fresh, .empty, rfl, .empty⟩

namespace Entered

theorem insertBinary (h : Entered done s) (hs' : s.insertBinary b = .ok (s', id)) :
    Entered (done ++ [(b, id)]) s' := by
  obtain ⟨t, ht, hholds⟩ := h.table
  have hreached : s'.Reached := .insertBinary h.reached hs'
  obtain ⟨u, hu, -, -, rfl, rfl⟩ := insertBinary_eq_ok_iff.1 hs'
  obtain rfl := Option.some.inj (hu.symm.trans ht)
  refine ⟨hreached, _, rfl, ?_⟩
  rw [List.map_append]
  exact hholds.push b

theorem numbers (h : Entered done s) :
    done.map Prod.snd = (List.range' 1 done.length).map Int.ofNat := by
  obtain ⟨t, -, hholds⟩ := h.table
  have hnumbers := hholds.numbers
  rwa [List.map_map, List.length_map] at hnumbers

theorem contents_eq (h : Entered done s) :
    ∃ t, s.binaries = some t ∧ t.contents = done.map Prod.fst := by
  obtain ⟨t, ht, hholds⟩ := h.table
  refine ⟨t, ht, ?_⟩
  rw [Numbered.contents, hholds.rows_eq, List.map_map]
  rfl

theorem nodup_names (h : Entered done s) :
    ((done.map Prod.fst).map BinaryRecord.name).Nodup := by
  obtain ⟨t, ht, hcontents⟩ := h.contents_eq
  obtain ⟨u, hu, hnames⟩ := h.reached.exists_binaries
  obtain rfl := Option.some.inj (hu.symm.trans ht)
  rwa [← hcontents]

/-- What the table says of names and numbers is said by the calls. -/
theorem names_and_numbers (h : Entered done s) (b : BinaryRecord) : ∃ t,
    s.binaries = some t ∧
      ((∀ known ∈ t.contents, known.name ≠ b.name) ↔ ∀ known ∈ done, known.1.name ≠ b.name) ∧
      (t.next ≤ Numbered.maxNumber ↔ (done.length : Int) < Numbered.maxNumber) := by
  obtain ⟨t, ht, hcontents⟩ := h.contents_eq
  obtain ⟨u, hu, hholds⟩ := h.table
  obtain rfl := Option.some.inj (hu.symm.trans ht)
  refine ⟨u, hu, ?_, ?_⟩
  · rw [hcontents]
    exact List.forall_mem_map
  · rw [hholds.next_le_iff, List.length_map]

/-- A call succeeds if its name was not entered, as long as there are numbers. -/
theorem isOk_enterBinary_iff (h : Entered done s) (b : BinaryRecord) :
    (∃ id, (enterBinary b s).1 = .ok id) ↔
      (∀ known ∈ done, known.1.name ≠ b.name) ∧ (done.length : Int) < Numbered.maxNumber := by
  obtain ⟨t, ht, hfree, hroom⟩ := h.names_and_numbers b
  rw [← hfree, ← hroom]
  refine exists_settled_iff.trans ⟨?_, ?_⟩
  · rintro ⟨s', id, hs'⟩
    obtain ⟨u, hu, hnew, hnext, -, -⟩ := insertBinary_eq_ok_iff.1 hs'
    obtain rfl := Option.some.inj (hu.symm.trans ht)
    exact ⟨hnew, hnext⟩
  · rintro ⟨hnew, hnext⟩
    exact ⟨_, _, insertBinary_eq_ok_iff.2 ⟨t, ht, hnew, hnext, rfl, rfl⟩⟩

/-- A call is refused as a duplicate if its name was entered, whether there are numbers or not. -/
theorem enterBinary_eq_duplicate_iff (h : Entered done s) (b : BinaryRecord) :
    (enterBinary b s).1 = .error .duplicateBinary ↔ ∃ known ∈ done, known.1.name = b.name := by
  obtain ⟨t, ht, hfree, -⟩ := h.names_and_numbers b
  constructor
  · intro hrefused
    by_contra hnew
    have hnone : ∀ known ∈ t.contents, known.name ≠ b.name :=
      hfree.2 fun known hmem heq => hnew ⟨known, hmem, heq⟩
    rcases Int.lt_or_le Numbered.maxNumber t.next with hfull | hnext
    · rw [enterBinary, insertBinary_of_full ht hnone hfull] at hrefused
      cases hrefused
    · rw [enterBinary, insertBinary_eq_ok_iff.2 ⟨t, ht, hnone, hnext, rfl, rfl⟩] at hrefused
      cases hrefused
  · rintro ⟨known, hmem, heq⟩
    have hknown : ∃ known ∈ t.contents, known.name = b.name := by
      by_contra hnone
      exact hfree.1 (fun other hother hname => hnone ⟨other, hother, hname⟩) known hmem heq
    rw [enterBinary, insertBinary_of_known ht hknown, settled]

end Entered

theorem entered_callAll (calls : List BinaryRecord) :
    Entered (succeeded (callAll enterBinary calls fresh).1) (callAll enterBinary calls fresh).2 :=
  (callAll_induct (fun h hcall => h.insertBinary (settled_eq_ok_iff.1 hcall))
    (fun h hcall => eq_of_settled_error hcall ▸ h) entered_fresh calls :)

/-- **The table of binaries is a map that only grows.**  After any calls in a new store the list
has the records that were entered, in their order and as they were given, and no two have the
same name.  A name is found exactly if it is listed, and then with its only record.  The numbers
given are `1`, `2`, `3` and so on, and without the calls that were refused the others would have
been given the same and would have left the same store.

A call is refused as a duplicate exactly if a call before it entered the name.  Otherwise it
succeeds as long as there are numbers. -/
theorem binaries_of_calls (calls : List BinaryRecord) : ∃ log s listed,
    callAll enterBinary calls fresh = (log, s) ∧ listed = (succeeded log).map Prod.fst ∧
      s.listBinaries = .ok listed ∧ (listed.map BinaryRecord.name).Nodup ∧
      (∀ name, ∃ found, s.findBinary name = .ok found ∧
        (∀ b, found = some b ↔ b ∈ listed ∧ b.name = name) ∧
        (found = none ↔ ∀ b ∈ listed, b.name ≠ name)) ∧
      (succeeded log).map Prod.snd = (List.range' 1 listed.length).map Int.ofNat ∧
      callAll enterBinary listed fresh = ((succeeded log).map fun done => (done.1, .ok done.2), s) ∧
      ∀ earlier b answer later, log = earlier ++ (b, answer) :: later →
        (answer = .error .duplicateBinary ↔ ∃ known ∈ succeeded earlier, known.1.name = b.name) ∧
        ((∃ id, answer = .ok id) ↔ (∀ known ∈ succeeded earlier, known.1.name ≠ b.name) ∧
          ((succeeded earlier).length : Int) < Numbered.maxNumber) := by
  have hentered := entered_callAll calls
  obtain ⟨t, ht, hcontents⟩ := hentered.contents_eq
  refine ⟨_, _, _, rfl, rfl, ?_, hentered.nodup_names, fun name => ?_, ?_, ?_, ?_⟩
  · rw [listBinaries, need_eq_ok_iff.2 ht, ← hcontents]
    rfl
  · refine ⟨_, ?_, fun b => find?_key_eq_some_iff hentered.nodup_names, ?_⟩
    · rw [findBinary, need_eq_ok_iff.2 ht, ← hcontents]
      rfl
    · rw [List.find?_eq_none]
      exact forall₂_congr fun b _ => not_congr beq_iff_eq
  · rw [hentered.numbers, List.length_map]
  · exact callAll_succeeded (fun hcall => eq_of_settled_error hcall) calls fresh
  · intro earlier b answer later hlog
    obtain ⟨before, rfl, rfl⟩ := exists_of_callAll hlog
    have hbefore := entered_callAll before
    exact ⟨hbefore.enterBinary_eq_duplicate_iff b, hbefore.isOk_enterBinary_iff b⟩

/-- Two records of one name, with and without what is optional. -/
def bareBinary : BinaryRecord where
  name := "libc.so"
  path := "lib/libc.so"
  arch := none
  format := none
  hash := none

def knownBinary : BinaryRecord :=
  { bareBinary with arch := some "x86_64", hash := some "" }

/-- The second record of a name is refused, and the call after it has the second number. -/
theorem binaries_of_calls_twice : ∃ log s,
    callAll enterBinary [knownBinary, bareBinary, { bareBinary with name := "libm.so" }] fresh =
      (log, s) ∧
    log[1]? = some (bareBinary, .error .duplicateBinary) ∧
    (succeeded log).map Prod.snd = [1, 2] ∧
    s.findBinary "libc.so" = .ok (some knownBinary) ∧ s.findBinary "libz.so" = .ok none := by
  obtain ⟨log, s, listed, hcalls, hlisted, -, -, hfind, hnumbers, -, hanswers⟩ :=
    binaries_of_calls [knownBinary, bareBinary, { bareBinary with name := "libm.so" }]
  obtain ⟨known, hknown, hlibc, -⟩ := hfind "libc.so"
  obtain ⟨missing, hmissing, -, hlibz⟩ := hfind "libz.so"
  cases hcalls
  cases hlisted
  have hrefused := (hanswers [(knownBinary, .ok 1)] bareBinary _ _ rfl).1.2
    ⟨(knownBinary, 1), List.mem_singleton_self _, rfl⟩
  refine ⟨_, _, rfl, ?_, hnumbers, ?_, ?_⟩
  · rw [← hrefused]
    rfl
  · rw [hknown, (hlibc knownBinary).2 ⟨by decide, rfl⟩]
  · rw [hmissing, hlibz.2 (by decide)]

end Store

end DebugCatalog
