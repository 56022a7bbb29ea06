import DebugCatalog.Proofs.Store.Isolation

/-!
# Findings written again

A write takes out rows and puts them back at the end of their table, so it moves rows whenever
it finds some of its own there.  What is loaded depends on the order of the rows, and so it
matters that a write which is repeated puts them where they were (`writeFindings_again`).

`foldl_replaceRow_eq` is the reason.  However many of the new rows share a key, and whatever the
table has, a write leaves the rows without one of these keys as they were and then puts what it
would put into an empty table.  Neither part is another one the second time.

Nothing is assumed: not that the run is there, nor that its rows come from a write, nor that
the keys of the collector are distinct.
-/

namespace DebugCatalog

section Rows

variable {α κ : Type} [BEq κ] {key : α → κ}

/-- Rows of which none has a key of the new ones, and then what an empty table would get. -/
theorem foldl_replaceRow_eq (rows new : List α) : new.foldl (replaceRow key) rows =
    rows.filter (fun r => new.all fun x => key r != key x) ++ new.foldl (replaceRow key) [] := by
  -- The first row also meets the empty table, so the rest must be known for the table with just it.
  induction new generalizing rows with
  | nil =>
    have hall : (rows.filter fun r => ([] : List α).all fun x => key r != key x) = rows :=
      List.filter_eq_self.2 fun _ _ => rfl
    rw [hall, List.foldl_nil, List.foldl_nil, List.append_nil]
  | cons x new ih =>
    have hfirst : replaceRow key [] x = [x] := rfl
    have hrows : (rows.filter fun r => key r != key x).filter
        (fun r => new.all fun y => key r != key y) =
          rows.filter fun r => (x :: new).all fun y => key r != key y := by
      rw [List.filter_filter]
      congr 1
      funext r
      rw [List.all_cons, Bool.and_comm]
    rw [List.foldl_cons, List.foldl_cons, hfirst, ih (replaceRow key rows x), ih [x], replaceRow,
      List.filter_append, hrows, List.append_assoc]

/-- The same rows once more change nothing, not even the order. -/
theorem foldl_replaceRow_again [LawfulBEq κ] (rows new : List α) :
    new.foldl (replaceRow key) (new.foldl (replaceRow key) rows) =
      new.foldl (replaceRow key) rows := by
  have hfree : ∀ x ∈ new, ∀ r, key r = key x → (new.all fun y => key r != key y) = false := by
    intro x hx r hr
    rw [List.all_eq_false]
    exact ⟨x, hx, by rw [hr, bne_self_eq_false]; exact Bool.false_ne_true⟩
  rw [foldl_replaceRow_eq, filter_foldl_replaceRow key hfree, ← foldl_replaceRow_eq]

end Rows

namespace Store

variable {s s' : Store} {run : Int} {c : Collector}

/-- **A write that is repeated leaves the store as it is**, with all rows where they were.  So
what is loaded of the run, or what it fails with, is the same. -/
theorem writeFindings_again (h : s.writeFindings run c = .ok s') :
    s'.writeFindings run c = .ok s' ∧
      ∀ again, s'.writeFindings run c = .ok again →
        again.loadFindings run = s'.loadFindings run := by
  have hagain : s'.writeFindings run c = .ok s' := by
    rw [eq_of_writeFindings h, writeFindings_eq_foldl rfl rfl rfl]
    simp only [foldl_replaceRow_again]
  refine ⟨hagain, fun again hwritten => ?_⟩
  rw [hagain] at hwritten
  rw [Except.ok.inj hwritten]

/-- A write over a row that stands for no type, twice. -/
theorem writeFindings_again_stray : ∃ s,
    strayStore.writeFindings 1 (Collector.empty.addFunction lastFunction) = .ok s ∧
      s.writeFindings 1 (Collector.empty.addFunction lastFunction) = .ok s := by
  obtain ⟨s, hwrite⟩ : ∃ s,
      strayStore.writeFindings 1 (Collector.empty.addFunction lastFunction) = .ok s := ⟨_, rfl⟩
  exact ⟨s, hwrite, (writeFindings_again hwrite).1⟩

end Store

end DebugCatalog
