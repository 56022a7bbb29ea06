import DebugCatalog.Proofs.Results
import DebugCatalog.Proofs.Store.Writing
import Mathlib.Data.List.Pairwise

/-!
# What a load makes of the rows

`Store.loadFindings` gathers the rows of one run and assembles a collector from
them.  This file looks at the second half, `Store.assemble`, apart from where the
rows come from.

* `assemble_isOk_iff`: it succeeds exactly when every text among the rows is that
  of a type.
* `assemble_ok`: then, if the rows are named and distinct, it leaves none of them
  out and keeps their order.  The parameters of a function are `parametersAt` its
  address.
* `parametersAt_eq`: whatever order the rows of parameters are in, reading them by
  position gives the one list that is sorted by it.
-/

namespace DebugCatalog

/-! ### Texts of types -/

namespace DataType

/-- The text is that of a type. -/
def IsText (text : String) : Prop :=
  ∃ t, decode text = .ok t

/-- The type of a text, and `void` for a text of none. -/
def ofText (text : String) : DataType :=
  (decode text).toOption.getD .void

theorem decode_eq_ofText {text : String} (h : IsText text) : decode text = .ok (ofText text) := by
  obtain ⟨t, ht⟩ := h
  rw [ofText, ht]
  rfl

/-- A type that is not too deep for a text. -/
def IsShallow (t : DataType) : Prop :=
  t.toJson.depth ≤ Json.depthLimit

theorem isText_encode_iff (t : DataType) : IsText t.encode ↔ t.IsShallow := by
  rw [IsText, decode_encode]
  constructor
  · rintro ⟨u, hu⟩
    by_contra hdeep
    rw [if_neg (show ¬ t.toJson.depth ≤ Json.depthLimit from hdeep)] at hu
    cases hu
  · intro h
    exact ⟨t, if_pos h⟩

theorem ofText_encode {t : DataType} (h : t.IsShallow) : ofText t.encode = t := by
  unfold IsShallow at h
  rw [ofText, decode_encode, if_pos h]
  rfl

end DataType

namespace Store

/-! ### Parameters in order -/

/-- The parameters at an address as they are read. -/
def parametersAt (ps : List StoredParameter) (address : Int) : List StoredParameter :=
  (ps.mergeSort StoredParameter.before).filter fun p => p.address == address

theorem before_iff (p q : StoredParameter) : p.before q = true ↔
    p.address < q.address ∨ p.address = q.address ∧ p.position ≤ q.position := by
  simp only [StoredParameter.before, Bool.or_eq_true, Bool.and_eq_true, decide_eq_true_eq,
    beq_iff_eq]

theorem parametersAt_eq {ps expected : List StoredParameter} {address : Int}
    (hperm : (ps.filter fun p => p.address == address).Perm expected)
    (hsorted : expected.Pairwise fun p q => p.position < q.position) :
    parametersAt ps address = expected := by
  have hread : (parametersAt ps address).Perm expected :=
    ((List.mergeSort_perm ps StoredParameter.before).filter _).trans hperm
  have hbefore : (ps.mergeSort StoredParameter.before).Pairwise fun p q => p.before q = true := by
    apply List.pairwise_mergeSort
    · intro p q r hpq hqr
      rw [before_iff] at *
      omega
    · intro p q
      rw [Bool.or_eq_true, before_iff, before_iff]
      omega
  have hposition : (parametersAt ps address).Pairwise fun p q => p.position ≤ q.position := by
    refine (hbefore.filter _).imp_of_mem ?_
    intro p q hp hq hpq
    have hp := beq_iff_eq.1 (List.mem_filter.1 hp).2
    have hq := beq_iff_eq.1 (List.mem_filter.1 hq).2
    rw [before_iff] at hpq
    omega
  refine List.Perm.eq_of_pairwise ?_ hposition (hsorted.imp Int.le_of_lt) hread
  intro p q hp hq hpq hqp
  have hdistinct : (expected.map StoredParameter.position).Nodup :=
    List.pairwise_map.2 (hsorted.imp Int.ne_of_lt)
  exact List.inj_on_of_nodup_map hdistinct (hread.mem_iff.1 hp) hq (Int.le_antisymm hpq hqp)

/-! ### Assembling -/

def assemble (parser : String) (ts : List StoredType) (ps : List StoredParameter)
    (fs : List StoredFunction) : Except StoreError Collector := do
  let types ← ts.mapM decodeType
  let parameters ← (ps.mergeSort StoredParameter.before).mapM decodeParameter
  let functions ← fs.mapM (decodeFunction parameters)
  let c := Collector.empty.crediting (some parser)
  let c := types.foldl (fun c (name, type) => c.addType name type) c
  let c := functions.foldl Collector.addFunction c
  .ok (c.crediting none)

/-- The record of a stored function, given the parameters of the whole run. -/
def functionOf (ps : List StoredParameter) (f : StoredFunction) : FunctionRecord where
  shortName := f.shortName
  fullName := f.fullName
  rawName := f.rawName
  address := Word.ofSigned f.address
  returnType := .ofText f.returnType
  parameters := (parametersAt ps f.address).map fun p => (p.name, .ofText p.definition)

theorem decodeColumn_eq {text : String} (h : DataType.IsText text) (column : Nat) :
    decodeColumn column text = .ok (.ofText text) := by
  rw [decodeColumn, DataType.decode_eq_ofText h]

theorem isText_of_decodeColumn {column : Nat} {text : String} {t : DataType}
    (h : decodeColumn column text = .ok t) : DataType.IsText text := by
  unfold decodeColumn at h
  split at h
  · next u hu => exact ⟨u, hu⟩
  · cases h

section Assemble

variable {parser : String} {ts : List StoredType} {ps : List StoredParameter}
  {fs : List StoredFunction}

/-- The texts among the rows of a run are those of types. -/
structure AreTexts (ts : List StoredType) (ps : List StoredParameter) (fs : List StoredFunction) :
    Prop where
  types : ∀ t ∈ ts, DataType.IsText t.definition
  parameters : ∀ p ∈ ps, DataType.IsText p.definition
  functions : ∀ f ∈ fs, DataType.IsText f.returnType

theorem assemble_eq (h : AreTexts ts ps fs) :
    assemble parser ts ps fs =
      .ok (((fs.map (functionOf ps)).foldl Collector.addFunction
        ((ts.map fun t => (t.name, DataType.ofText t.definition)).foldl
          (fun c t => c.addType t.1 t.2)
          (Collector.empty.crediting (some parser)))).crediting none) := by
  have htypes : ts.mapM decodeType =
      .ok (ts.map fun t => (t.name, DataType.ofText t.definition)) := by
    refine mapM_eq_ok fun t ht => ?_
    rw [decodeType, decodeColumn_eq (h.types t ht)]
    rfl
  have hparameters : (ps.mergeSort StoredParameter.before).mapM decodeParameter =
      .ok ((ps.mergeSort StoredParameter.before).map fun p =>
        (p.address, p.name, DataType.ofText p.definition)) := by
    refine mapM_eq_ok fun p hp => ?_
    rw [decodeParameter, decodeColumn_eq (h.parameters p (List.mem_mergeSort.1 hp))]
    rfl
  have hfunctions : fs.mapM (decodeFunction ((ps.mergeSort StoredParameter.before).map fun p =>
      (p.address, p.name, DataType.ofText p.definition))) = .ok (fs.map (functionOf ps)) := by
    refine mapM_eq_ok fun f hf => ?_
    rw [decodeFunction, decodeColumn_eq (h.functions f hf), List.filter_map, List.map_map]
    rfl
  rw [assemble, htypes]
  simp only [hparameters, hfunctions, bind, Except.bind]

/-- **Rows can be read exactly when all their texts are those of types.** -/
theorem assemble_isOk_iff :
    (∃ c, assemble parser ts ps fs = .ok c) ↔ AreTexts ts ps fs := by
  constructor
  · rintro ⟨c, h⟩
    rw [assemble] at h
    obtain ⟨types, htypes, h⟩ := exists_of_bind_eq_ok h
    obtain ⟨parameters, hparameters, h⟩ := exists_of_bind_eq_ok h
    obtain ⟨functions, hfunctions, -⟩ := exists_of_bind_eq_ok h
    refine ⟨fun t ht => ?_, fun p hp => ?_, fun f hf => ?_⟩
    · obtain ⟨x, hx⟩ := exists_ok_of_mapM htypes t ht
      obtain ⟨type, htype, -⟩ := exists_of_bind_eq_ok hx
      exact isText_of_decodeColumn htype
    · obtain ⟨x, hx⟩ := exists_ok_of_mapM hparameters p (List.mem_mergeSort.2 hp)
      obtain ⟨type, htype, -⟩ := exists_of_bind_eq_ok hx
      exact isText_of_decodeColumn htype
    · obtain ⟨x, hx⟩ := exists_ok_of_mapM hfunctions f hf
      obtain ⟨type, htype, -⟩ := exists_of_bind_eq_ok hx
      exact isText_of_decodeColumn htype
  · intro h
    exact ⟨_, assemble_eq h⟩

/-- Named rows with distinct keys are all there afterwards, in their order. -/
theorem assemble_ok (parser : String) (h : AreTexts ts ps fs) (htypeNamed : ∀ t ∈ ts, t.name ≠ "")
    (htypes : (ts.map StoredType.name).Nodup)
    (hfunctionNamed : ∀ f ∈ fs, (functionOf ps f).isAnonymous = false)
    (hfunctions : (fs.map fun f => Word.ofSigned f.address).Nodup) :
    ∃ c, assemble parser ts ps fs = .ok c ∧ c.Sound ∧
      c.types.toList = ts.map (fun t =>
        { name := t.name, type := .ofText t.definition, source := some parser }) ∧
      c.functions.toList = fs.map (fun f =>
        { function := functionOf ps f, source := some parser }) := by
  have hstart : (Collector.empty.crediting (some parser)).Sound :=
    Collector.sound_empty.crediting _
  obtain ⟨hsound, htoList, hnone, hsource⟩ := Collector.foldl_addType hstart
    (ts.map fun t => (t.name, DataType.ofText t.definition))
    (List.forall_mem_map.2 htypeNamed) (by rwa [List.map_map])
    (fun _ _ _ he => absurd he List.not_mem_nil)
  obtain ⟨hsound', htoList', hsame, -⟩ := Collector.foldl_addFunction hsound
    (fs.map (functionOf ps)) (List.forall_mem_map.2 hfunctionNamed) (by rwa [List.map_map])
    (by rw [hnone]; exact fun _ _ _ he => absurd he List.not_mem_nil)
  refine ⟨_, assemble_eq h, hsound'.crediting none, ?_, ?_⟩
  · exact (congrArg KeyedList.toList hsame).trans (htoList.trans (by rw [List.map_map]; rfl))
  · refine htoList'.trans ?_
    rw [hnone, hsource, List.map_map]
    rfl

end Assemble

/-! ### Loading -/

/-- The run of a number, if the store has it. -/
def run? (s : Store) (run : Int) : Option StoredRun :=
  s.runs.bind fun t => t.find? run

theorem loadFindings_eq_assemble {s : Store} {run : Int} {r : StoredRun} {ts : List StoredType}
    {fs : List StoredFunction} {ps : List StoredParameter} (hrun : s.run? run = some r)
    (htypes : s.types = some ts) (hfunctions : s.functions = some fs)
    (hparameters : s.parameters = some ps) :
    s.loadFindings run =
      assemble r.parser (s.typesOf run) (s.parametersOf run) (s.functionsOf run) := by
  obtain ⟨t, hruns, hfind⟩ := Option.bind_eq_some_iff.1 hrun
  simp only [loadFindings, need, hruns, hfind, htypes, hfunctions, hparameters, bind, Except.bind,
    assemble, typesOf, functionsOf, parametersOf, Option.getD_some]

/-- After a write, which takes no run away, the rows of each run can be looked at. -/
theorem loadFindings_of_writeFindings {s s' : Store} {run other : Int} {r : StoredRun}
    {c : Collector} (hrun : s.run? other = some r) (h : s.writeFindings run c = .ok s') :
    s'.loadFindings other =
      assemble r.parser (s'.typesOf other) (s'.parametersOf other) (s'.functionsOf other) := by
  have hs' := eq_of_writeFindings h
  subst hs'
  exact loadFindings_eq_assemble hrun rfl rfl rfl

end Store

end DebugCatalog
