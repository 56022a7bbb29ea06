import DebugCatalog.Proofs.Collector.Reachable
import DebugCatalog.Proofs.DataType.Decoding
import DebugCatalog.Store.Findings

/-!
# What a write does to the tables

Findings are written row by row, and a row takes the place of the one with its
key.  Put together, the rows written for a sound collector have distinct keys, so
they all stay, at the end and in their order, and only rows with one of their
keys are gone: `overwrite`.

* `eq_of_writeFindings`: a write changes three tables and nothing else.
* `rowsOf_of_writeFindings`: the rows of the run are overwritten.
* `rowsOf_of_writeFindings_of_ne`: the rows of other runs stay as they are.
-/

namespace DebugCatalog

/-! ### Rows written one after the other -/

section Rows

variable {α κ : Type} [BEq κ] (key : α → κ)

/-- The rows without those that have a key of the new ones, and then these. -/
def overwrite (rows new : List α) : List α :=
  rows.filter (fun r => new.all fun x => key r != key x) ++ new

theorem overwrite_nil (new : List α) : overwrite key [] new = new := rfl

theorem filter_overwrite {p : α → Bool} {new : List α} (h : ∀ x ∈ new, p x = true)
    (rows : List α) : (overwrite key rows new).filter p = overwrite key (rows.filter p) new := by
  rw [overwrite, overwrite, List.filter_append, List.filter_eq_self.2 h, List.filter_filter,
    List.filter_filter]
  congr 2
  funext r
  exact Bool.and_comm _ _

variable [LawfulBEq κ]

theorem foldl_replaceRow {new : List α} (h : (new.map key).Nodup) (rows : List α) :
    new.foldl (replaceRow key) rows = overwrite key rows new := by
  induction new generalizing rows with
  | nil => simp [overwrite]
  | cons x new ih =>
    obtain ⟨hx, hnew⟩ := List.nodup_cons.1 h
    have hstays : (new.all fun y => key x != key y) = true := by
      rw [List.all_eq_true]
      intro y hy
      rw [bne_iff_ne]
      intro heq
      exact hx (List.mem_map.2 ⟨y, hy, heq.symm⟩)
    rw [List.foldl_cons, ih hnew, overwrite, overwrite, replaceRow, List.filter_append,
      List.filter_filter, List.filter_cons, hstays, if_pos rfl, List.filter_nil,
      List.append_assoc, List.singleton_append]
    congr 2
    funext r
    rw [List.all_cons, Bool.and_comm]

/-- Rows that share no key with the new ones stay, in their order. -/
theorem filter_foldl_replaceRow {p : α → Bool} {new : List α}
    (h : ∀ x ∈ new, ∀ r, key r = key x → p r = false) (rows : List α) :
    (new.foldl (replaceRow key) rows).filter p = rows.filter p := by
  induction new generalizing rows with
  | nil => rfl
  | cons x new ih =>
    have hx := h x (List.mem_cons_self ..)
    rw [List.foldl_cons, ih (fun y hy => h y (List.mem_cons_of_mem _ hy)), replaceRow,
      List.filter_append, List.filter_cons, hx x rfl, List.filter_filter]
    rw [if_neg (by decide), List.filter_nil, List.append_nil]
    apply List.filter_congr
    intro r _
    by_cases hr : key r = key x
    · rw [hx r hr, Bool.false_and]
    · rw [bne_iff_ne.2 hr, Bool.and_true]

end Rows

/-! ### The rows of a collector -/

def StoredType.ofCollector (run : Int) (c : Collector) : List StoredType :=
  c.types.toList.map (.ofEntry run)

def StoredFunction.ofCollector (run : Int) (c : Collector) : List StoredFunction :=
  c.functions.toList.map fun e => .ofRecord run e.function

def StoredParameter.ofCollector (run : Int) (c : Collector) : List StoredParameter :=
  c.functions.toList.flatMap fun e => ofRecord run e.function

theorem Word.toSigned_injective : Function.Injective Word.toSigned := by
  intro a b h
  rw [← Word.ofSigned_toSigned a, h, Word.ofSigned_toSigned]

namespace StoredParameter

theorem mem_ofRecord {run : Int} {f : FunctionRecord} {p : StoredParameter}
    (h : p ∈ ofRecord run f) : p.run = run ∧ p.address = Word.toSigned f.address := by
  obtain ⟨⟨⟨name, type⟩, i⟩, -, rfl⟩ := List.mem_map.1 h
  exact ⟨rfl, rfl⟩

/-- Positions count up from zero. -/
theorem map_position_ofRecord (run : Int) (f : FunctionRecord) :
    (ofRecord run f).map position = (List.range f.parameters.length).map Int.ofNat := by
  rw [ofRecord, List.map_map, List.range_eq_range', ← List.zipIdx_map_snd 0 f.parameters,
    List.map_map]
  rfl

theorem pairwise_position_ofRecord (run : Int) (f : FunctionRecord) :
    (ofRecord run f).Pairwise fun p q => p.position < q.position := by
  rw [← List.pairwise_map (f := position) (R := (· < ·)), map_position_ofRecord, List.pairwise_map]
  exact List.pairwise_lt_range.imp Int.ofNat_lt.2

theorem mem_ofCollector {run : Int} {c : Collector} {p : StoredParameter}
    (h : p ∈ ofCollector run c) : p.run = run := by
  obtain ⟨e, -, hp⟩ := List.mem_flatMap.1 h
  exact (mem_ofRecord hp).1

end StoredParameter

namespace Collector.Sound

variable {c : Collector}

theorem nodup_typeKeys (h : c.Sound) (run : Int) :
    ((StoredType.ofCollector run c).map StoredType.key).Nodup := by
  rw [StoredType.ofCollector, List.map_map]
  exact List.Nodup.of_map Prod.snd (by rw [List.map_map]; exact h.types.nodup)

theorem nodup_functionKeys (h : c.Sound) (run : Int) :
    ((StoredFunction.ofCollector run c).map StoredFunction.key).Nodup := by
  rw [StoredFunction.ofCollector, List.map_map]
  refine List.Nodup.of_map Prod.snd ?_
  rw [List.map_map]
  have hsigned := h.functions.nodup.map Word.toSigned_injective
  rwa [List.map_map] at hsigned

theorem nodup_parameterKeys (h : c.Sound) (run : Int) :
    ((StoredParameter.ofCollector run c).map StoredParameter.key).Nodup := by
  rw [StoredParameter.ofCollector, List.map_flatMap, List.nodup_flatMap]
  constructor
  · intro e _
    refine List.Nodup.of_map (fun k : Int × Int × Int => k.2.2) ?_
    rw [List.map_map]
    change ((StoredParameter.ofRecord run e.function).map StoredParameter.position).Nodup
    rw [StoredParameter.map_position_ofRecord]
    exact List.nodup_range.map Int.ofNat_injective
  · refine (List.pairwise_map.1 h.functions.nodup).imp ?_
    intro e e' hne k hk hk'
    obtain ⟨p, hp, rfl⟩ := List.mem_map.1 hk
    obtain ⟨q, hq, heq⟩ := List.mem_map.1 hk'
    have haddress : q.address = p.address := congrArg (fun k : Int × Int × Int => k.2.1) heq
    rw [(StoredParameter.mem_ofRecord hp).2, (StoredParameter.mem_ofRecord hq).2] at haddress
    exact hne (Word.toSigned_injective haddress.symm)

end Collector.Sound

namespace Store

variable {s s' : Store} {run : Int} {c : Collector}

/-! ### The rows of a run -/

def typesOf (s : Store) (run : Int) : List StoredType :=
  (s.types.getD []).filter fun t => t.run == run

def functionsOf (s : Store) (run : Int) : List StoredFunction :=
  (s.functions.getD []).filter fun f => f.run == run

def parametersOf (s : Store) (run : Int) : List StoredParameter :=
  (s.parameters.getD []).filter fun p => p.run == run

/-- Nothing that a run found is in the store. -/
structure HasNoFindings (s : Store) (run : Int) : Prop where
  types : s.typesOf run = []
  functions : s.functionsOf run = []
  parameters : s.parametersOf run = []

theorem HasNoFindings.congr (h : s.HasNoFindings run) (htypes : s'.types = s.types)
    (hfunctions : s'.functions = s.functions) (hparameters : s'.parameters = s.parameters) :
    s'.HasNoFindings run := by
  constructor
  · rw [typesOf, htypes]
    exact h.types
  · rw [functionsOf, hfunctions]
    exact h.functions
  · rw [parametersOf, hparameters]
    exact h.parameters

/-! ### Writing -/

theorem writeFindings_eq_foldl {ts : List StoredType} {fs : List StoredFunction}
    {ps : List StoredParameter} (htypes : s.types = some ts) (hfunctions : s.functions = some fs)
    (hparameters : s.parameters = some ps) (run : Int) (c : Collector) :
    s.writeFindings run c = .ok { s with
      types := some ((StoredType.ofCollector run c).foldl (replaceRow StoredType.key) ts)
      functions :=
        some ((StoredFunction.ofCollector run c).foldl (replaceRow StoredFunction.key) fs)
      parameters :=
        some ((StoredParameter.ofCollector run c).foldl (replaceRow StoredParameter.key) ps) } := by
  simp only [writeFindings, need, htypes, hfunctions, hparameters, bind, Except.bind,
    StoredType.ofCollector, StoredFunction.ofCollector, StoredParameter.ofCollector,
    List.foldl_map, List.foldl_flatMap]

/-- A write needs the three tables. -/
theorem exists_tables_of_writeFindings (h : s.writeFindings run c = .ok s') :
    ∃ ts fs ps, s.types = some ts ∧ s.functions = some fs ∧ s.parameters = some ps := by
  simp only [writeFindings, bind, Except.bind] at h
  cases htypes : s.types with
  | none => rw [htypes] at h; cases h
  | some ts =>
    cases hfunctions : s.functions with
    | none => rw [htypes, hfunctions] at h; cases h
    | some fs =>
      cases hparameters : s.parameters with
      | none => rw [htypes, hfunctions, hparameters] at h; cases h
      | some ps => exact ⟨ts, fs, ps, rfl, rfl, rfl⟩

/-- All that a write does. -/
theorem eq_of_writeFindings (h : s.writeFindings run c = .ok s') : s' = { s with
      types := some ((StoredType.ofCollector run c).foldl (replaceRow StoredType.key)
        (s.types.getD []))
      functions := some ((StoredFunction.ofCollector run c).foldl (replaceRow StoredFunction.key)
        (s.functions.getD []))
      parameters := some ((StoredParameter.ofCollector run c).foldl
        (replaceRow StoredParameter.key) (s.parameters.getD [])) } := by
  obtain ⟨ts, fs, ps, htypes, hfunctions, hparameters⟩ := exists_tables_of_writeFindings h
  rw [writeFindings_eq_foldl htypes hfunctions hparameters] at h
  rw [htypes, hfunctions, hparameters]
  exact (Except.ok.inj h).symm

theorem runs_of_writeFindings (h : s.writeFindings run c = .ok s') : s'.runs = s.runs := by
  rw [eq_of_writeFindings h]

/-- The rows of other runs stay as they are. -/
theorem rowsOf_of_writeFindings_of_ne (h : s.writeFindings run c = .ok s') {other : Int}
    (hne : other ≠ run) :
    s'.typesOf other = s.typesOf other ∧ s'.functionsOf other = s.functionsOf other ∧
      s'.parametersOf other = s.parametersOf other := by
  rw [eq_of_writeFindings h]
  refine ⟨filter_foldl_replaceRow _ ?_ _, filter_foldl_replaceRow _ ?_ _,
    filter_foldl_replaceRow _ ?_ _⟩
  · intro t ht r hkey
    obtain ⟨e, -, rfl⟩ := List.mem_map.1 ht
    exact beq_eq_false_iff_ne.2 fun heq => hne (heq.symm.trans (congrArg Prod.fst hkey))
  · intro f hf r hkey
    obtain ⟨e, -, rfl⟩ := List.mem_map.1 hf
    exact beq_eq_false_iff_ne.2 fun heq => hne (heq.symm.trans (congrArg Prod.fst hkey))
  · intro p hp r hkey
    refine beq_eq_false_iff_ne.2 fun heq => hne (heq.symm.trans ?_)
    exact (congrArg Prod.fst hkey).trans (StoredParameter.mem_ofCollector hp)

/-- The rows of the run itself are overwritten. -/
theorem rowsOf_of_writeFindings (h : s.writeFindings run c = .ok s') (hc : c.Sound) :
    s'.typesOf run = overwrite StoredType.key (s.typesOf run) (StoredType.ofCollector run c) ∧
      s'.functionsOf run =
        overwrite StoredFunction.key (s.functionsOf run) (StoredFunction.ofCollector run c) ∧
      s'.parametersOf run =
        overwrite StoredParameter.key (s.parametersOf run) (StoredParameter.ofCollector run c) := by
  rw [eq_of_writeFindings h, foldl_replaceRow _ (hc.nodup_typeKeys run),
    foldl_replaceRow _ (hc.nodup_functionKeys run), foldl_replaceRow _ (hc.nodup_parameterKeys run)]
  refine ⟨filter_overwrite _ ?_ _, filter_overwrite _ ?_ _, filter_overwrite _ ?_ _⟩
  · intro t ht
    obtain ⟨e, -, rfl⟩ := List.mem_map.1 ht
    exact beq_self_eq_true run
  · intro f hf
    obtain ⟨e, -, rfl⟩ := List.mem_map.1 hf
    exact beq_self_eq_true run
  · intro p hp
    exact beq_iff_eq.2 (StoredParameter.mem_ofCollector hp)

end Store

end DebugCatalog
