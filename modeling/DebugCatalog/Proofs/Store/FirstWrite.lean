import DebugCatalog.Proofs.Collector.Credit
import DebugCatalog.Proofs.Store.Loading

/-!
# The first write of a run

A run that has no findings yet gets those of a sound collector, and its rows are then
those of the collector alone (`loadFindings_of_write`).  Types are kept as texts, and
the text of a type that is too deep cannot be read.  This is the only obstacle
(`areTexts_ofCollector_iff`).  Without it what is read has the same entries in the same
order, all credited to the parser of the run (`assemble_ofCollector`).

The rows of parameters are the delicate part.  They lie in a table of their own,
are read by signed address and not in the order of the functions, and come back
to a function by its address.  `parametersAt_ofCollector` is the reason that this
is harmless: an address belongs to one function only.
-/

namespace DebugCatalog

/-- A list of lists of which only one can have something in it. -/
theorem flatMap_eq_of_mem {α β κ : Type} {key : α → κ} {l : List α} (h : (l.map key).Nodup)
    {a : α} (ha : a ∈ l) {g : α → List β} (hg : ∀ b, key b ≠ key a → g b = []) :
    l.flatMap g = g a := by
  induction l with
  | nil => exact absurd ha List.not_mem_nil
  | cons b l ih =>
    obtain ⟨hfresh, hdistinct⟩ := List.nodup_cons.1 h
    rw [List.flatMap_cons]
    rcases List.mem_cons.1 ha with rfl | ha
    · have hrest : l.flatMap g = [] := by
        rw [List.flatMap_eq_nil_iff]
        intro b hb
        refine hg b fun heq => hfresh ?_
        rw [← heq]
        exact List.mem_map_of_mem hb
      rw [hrest, List.append_nil]
    · have hne : key b ≠ key a := by
        intro heq
        rw [heq] at hfresh
        exact hfresh (List.mem_map_of_mem ha)
      rw [hg b hne, List.nil_append, ih hdistinct ha]

/-! ### Depth -/

/-- No type of the function is too deep for a text. -/
def FunctionRecord.IsShallow (f : FunctionRecord) : Prop :=
  f.returnType.IsShallow ∧ ∀ p ∈ f.parameters, p.2.IsShallow

namespace Collector

/-- The types that have a name, are returned, or belong to a parameter. -/
def mentionedTypes (c : Collector) : List DataType :=
  c.types.toList.map TypeEntry.type ++
    c.functions.toList.flatMap fun e => e.function.returnType :: e.function.parameters.map Prod.snd

/-- No type is too deep for a text. -/
def IsShallow (c : Collector) : Prop :=
  ∀ t ∈ c.mentionedTypes, t.IsShallow

theorem isShallow_iff (c : Collector) :
    c.IsShallow ↔ (∀ e ∈ c.types.toList, e.type.IsShallow) ∧
      ∀ e ∈ c.functions.toList, e.function.IsShallow := by
  simp only [IsShallow, mentionedTypes, List.forall_mem_append, List.forall_mem_map,
    List.forall_mem_flatMap, List.forall_mem_cons, FunctionRecord.IsShallow]

theorem isShallow_empty : empty.IsShallow :=
  fun _ ht => absurd ht List.not_mem_nil

theorem IsShallow.crediting {c : Collector} (h : c.IsShallow) (source : Option String) :
    (c.crediting source).IsShallow := h

theorem IsShallow.addFunction {c : Collector} (h : c.IsShallow) {f : FunctionRecord}
    (hf : f.IsShallow) : (c.addFunction f).IsShallow := by
  unfold Collector.addFunction
  split
  · rw [isShallow_iff] at h ⊢
    rw [KeyedList.toList_push]
    exact ⟨h.1, List.forall_mem_append.2 ⟨h.2, List.forall_mem_singleton.2 hf⟩⟩
  · exact h

end Collector

/-! ### The rows of a collector -/

namespace StoredParameter

variable {run : Int}

theorem map_text_ofRecord (run : Int) (f : FunctionRecord) :
    (ofRecord run f).map (fun p => (p.name, p.definition)) =
      f.parameters.map fun q => (q.1, q.2.encode) := by
  rw [ofRecord, List.map_map]
  conv_rhs => rw [← List.zipIdx_map_fst 0 f.parameters, List.map_map]
  rfl

theorem map_ofText_ofRecord {f : FunctionRecord} (h : f.IsShallow) :
    (ofRecord run f).map (fun p => (p.name, DataType.ofText p.definition)) = f.parameters := by
  have hmap : (ofRecord run f).map (fun p => (p.name, DataType.ofText p.definition)) =
      ((ofRecord run f).map fun p => (p.name, p.definition)).map
        fun t => (t.1, DataType.ofText t.2) := by
    rw [List.map_map]
    rfl
  rw [hmap, map_text_ofRecord, List.map_map]
  conv_rhs => rw [← List.map_id f.parameters]
  apply List.map_congr_left
  rintro ⟨name, type⟩ hq
  exact congrArg (Prod.mk name) (DataType.ofText_encode (h.2 _ hq))

theorem areTexts_ofRecord_iff (f : FunctionRecord) :
    (∀ p ∈ ofRecord run f, DataType.IsText p.definition) ↔
      ∀ q ∈ f.parameters, q.2.IsShallow := by
  have hmap : (∀ t ∈ (ofRecord run f).map fun p => (p.name, p.definition), DataType.IsText t.2) ↔
      ∀ q ∈ f.parameters, DataType.IsText q.2.encode := by
    rw [map_text_ofRecord, List.forall_mem_map]
  rw [List.forall_mem_map] at hmap
  simp only [hmap, DataType.isText_encode_iff]

/-- An address belongs to one function. -/
theorem filter_ofCollector {c : Collector} (hc : c.Sound) {e : FunctionEntry}
    (he : e ∈ c.functions.toList) :
    (ofCollector run c).filter (fun p => p.address == Word.toSigned e.address) =
      ofRecord run e.function := by
  rw [ofCollector, List.filter_flatMap, flatMap_eq_of_mem hc.functions.nodup he]
  · rw [List.filter_eq_self]
    intro p hp
    exact beq_iff_eq.2 (mem_ofRecord hp).2
  · intro b hb
    rw [List.filter_eq_nil_iff]
    intro p hp heq
    rw [beq_iff_eq, (mem_ofRecord hp).2] at heq
    exact hb (Word.toSigned_injective heq)

/-- The rows of a function are found at its address, in their order. -/
theorem parametersAt_ofCollector {c : Collector} (hc : c.Sound) (run : Int) {e : FunctionEntry}
    (he : e ∈ c.functions.toList) :
    Store.parametersAt (ofCollector run c) (Word.toSigned e.address) =
      ofRecord run e.function := by
  refine Store.parametersAt_eq ?_ (pairwise_position_ofRecord run e.function)
  rw [filter_ofCollector hc he]

end StoredParameter

namespace Store

variable {s s' : Store} {run : Int} {c : Collector}

theorem functionOf_ofRecord {ps : List StoredParameter} {f : FunctionRecord}
    (h : f.returnType.IsShallow) :
    functionOf ps (.ofRecord run f) = { f with
      parameters := (parametersAt ps (Word.toSigned f.address)).map
        fun p => (p.name, .ofText p.definition) } := by
  simp only [functionOf, StoredFunction.ofRecord, Word.ofSigned_toSigned,
    DataType.ofText_encode h]

/-- The rows of a collector can be read exactly when no type is too deep. -/
theorem areTexts_ofCollector_iff (run : Int) (c : Collector) :
    AreTexts (StoredType.ofCollector run c) (StoredParameter.ofCollector run c)
      (StoredFunction.ofCollector run c) ↔ c.IsShallow := by
  have htypes : (∀ t ∈ StoredType.ofCollector run c, DataType.IsText t.definition) ↔
      ∀ e ∈ c.types.toList, e.type.IsShallow := by
    simp only [StoredType.ofCollector, List.forall_mem_map, StoredType.ofEntry,
      DataType.isText_encode_iff]
  have hparameters : (∀ p ∈ StoredParameter.ofCollector run c, DataType.IsText p.definition) ↔
      ∀ e ∈ c.functions.toList, ∀ q ∈ e.function.parameters, q.2.IsShallow := by
    simp only [StoredParameter.ofCollector, List.forall_mem_flatMap,
      StoredParameter.areTexts_ofRecord_iff]
  have hfunctions : (∀ f ∈ StoredFunction.ofCollector run c, DataType.IsText f.returnType) ↔
      ∀ e ∈ c.functions.toList, e.function.returnType.IsShallow := by
    simp only [StoredFunction.ofCollector, List.forall_mem_map, StoredFunction.ofRecord,
      DataType.isText_encode_iff]
  rw [c.isShallow_iff]
  constructor
  · intro h
    exact ⟨htypes.1 h.types, fun e he =>
      ⟨hfunctions.1 h.functions e he, hparameters.1 h.parameters e he⟩⟩
  · rintro ⟨ht, hf⟩
    exact ⟨htypes.2 ht, hparameters.2 fun e he => (hf e he).2,
      hfunctions.2 fun e he => (hf e he).1⟩

/-- **What is read from the rows of a collector** has its entries, in their order. -/
theorem assemble_ofCollector (hc : c.Sound) (hshallow : c.IsShallow) (run : Int)
    (parser : String) :
    ∃ loaded, assemble parser (StoredType.ofCollector run c) (StoredParameter.ofCollector run c)
        (StoredFunction.ofCollector run c) = .ok loaded ∧ loaded.Sound ∧
      loaded.CreditedTo parser c := by
  obtain ⟨ht, hf⟩ := c.isShallow_iff.1 hshallow
  have hfunction : ∀ e ∈ c.functions.toList,
      functionOf (StoredParameter.ofCollector run c) (.ofRecord run e.function) = e.function := by
    intro e he
    rw [functionOf_ofRecord (hf e he).1]
    have hparameters := StoredParameter.parametersAt_ofCollector hc run he
    rw [FunctionEntry.address] at hparameters
    rw [hparameters, StoredParameter.map_ofText_ofRecord (hf e he)]
  have htypesNodup : ((StoredType.ofCollector run c).map StoredType.name).Nodup := by
    rw [StoredType.ofCollector, List.map_map]
    exact hc.types.nodup
  have hfunctionsNodup :
      ((StoredFunction.ofCollector run c).map fun f => Word.ofSigned f.address).Nodup := by
    rw [StoredFunction.ofCollector, List.map_map]
    simp only [Function.comp_def, StoredFunction.ofRecord, Word.ofSigned_toSigned]
    exact hc.functions.nodup
  have hfunctionNamed : ∀ f ∈ StoredFunction.ofCollector run c,
      (functionOf (StoredParameter.ofCollector run c) f).isAnonymous = false := by
    refine List.forall_mem_map.2 fun e he => ?_
    rw [hfunction e he]
    exact hc.functionNamed e he
  obtain ⟨loaded, hok, hsound, htypes, hfunctions⟩ := assemble_ok parser
    ((areTexts_ofCollector_iff run c).2 hshallow) (List.forall_mem_map.2 hc.typeNamed)
    htypesNodup hfunctionNamed hfunctionsNodup
  refine ⟨loaded, hok, hsound, ?_, ?_⟩
  · rw [htypes, StoredType.ofCollector, List.map_map]
    apply List.map_congr_left
    intro e he
    simp only [Function.comp, StoredType.ofEntry, DataType.ofText_encode (ht e he),
      TypeEntry.creditedTo]
  · rw [hfunctions, StoredFunction.ofCollector, List.map_map]
    apply List.map_congr_left
    intro e he
    simp only [Function.comp, hfunction e he, FunctionEntry.creditedTo]

/-! ### Written and read back -/

/-- A run without findings has those of the collector after a write. -/
theorem loadFindings_of_write {r : StoredRun} (hrun : s.run? run = some r)
    (hnone : s.HasNoFindings run) (hc : c.Sound) (h : s.writeFindings run c = .ok s') :
    s'.loadFindings run = assemble r.parser (StoredType.ofCollector run c)
      (StoredParameter.ofCollector run c) (StoredFunction.ofCollector run c) := by
  obtain ⟨htypes, hfunctions, hparameters⟩ := rowsOf_of_writeFindings h hc
  rw [hnone.types, overwrite_nil] at htypes
  rw [hnone.functions, overwrite_nil] at hfunctions
  rw [hnone.parameters, overwrite_nil] at hparameters
  rw [loadFindings_of_writeFindings hrun h, htypes, hfunctions, hparameters]

end Store

end DebugCatalog
