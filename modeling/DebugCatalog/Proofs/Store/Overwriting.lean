import DebugCatalog.Proofs.Store.RoundTrip

/-!
# Findings written twice under one run

When findings are written under a run that has findings already, types and
functions with a key of the new ones are replaced as a whole.  Parameters are not:
their rows are replaced one by one, by position, and those that the new function
has no parameter for stay in the table.  So a function that is written over a
longer one ends with the rest of the longer one's parameters
(`FunctionRecord.writtenOver`).

`functionAt_of_rewrite` says what is loaded after two writes.  The second replaces
the first as it should exactly if no function of the first has more parameters
than the one that replaces it.
-/

namespace DebugCatalog

/-! ### Rows over rows -/

section Rows

variable {α κ : Type} [BEq κ] {key : α → κ} {rows new : List α}

theorem mem_overwrite {x : α} (h : x ∈ overwrite key rows new) : x ∈ rows ∨ x ∈ new := by
  rcases List.mem_append.1 h with h | h
  · exact .inl (List.mem_filter.1 h).1
  · exact .inr h

theorem overwrite_nil_right (rows : List α) : overwrite key rows [] = rows := by
  rw [overwrite, List.append_nil, List.filter_eq_self]
  exact fun _ _ => rfl

/-- The key of a row may be told by less than the key. -/
theorem overwrite_map {β κ' : Type} [BEq κ'] {key' : β → κ'} {f : β → α}
    (h : ∀ x y, (key (f x) == key (f y)) = (key' x == key' y)) (rows new : List β) :
    overwrite key (rows.map f) (new.map f) = (overwrite key' rows new).map f := by
  rw [overwrite, overwrite, List.map_append, List.filter_map]
  congr 3
  funext x
  rw [Function.comp, List.all_map]
  congr 1
  funext y
  rw [Function.comp, bne, bne, h]

/-- Rows can be picked before or after by what their keys have in common. -/
theorem filter_overwrite_of_key {p : α → Bool} (h : ∀ r x, (key r == key x) = true → p r = p x)
    (rows new : List α) :
    (overwrite key rows new).filter p = overwrite key (rows.filter p) (new.filter p) := by
  rw [overwrite, overwrite, List.filter_append, List.filter_filter, List.filter_filter]
  congr 1
  apply List.filter_congr
  intro r _
  by_cases hr : p r = true
  · rw [hr, Bool.true_and, Bool.and_true, List.all_filter]
    congr 1
    funext x
    by_cases hx : p x = true
    · rw [hx, Bool.not_true, Bool.false_or]
    · have hne : (key r == key x) = false := by
        rw [Bool.eq_false_iff]
        intro heq
        exact hx (h r x heq ▸ hr)
      rw [bne, hne, Bool.not_false, Bool.or_true]
  · rw [Bool.eq_false_iff.2 hr, Bool.false_and, Bool.and_false]

variable [LawfulBEq κ]

theorem nodup_overwrite (hrows : (rows.map key).Nodup) (hnew : (new.map key).Nodup) :
    ((overwrite key rows new).map key).Nodup := by
  rw [overwrite, List.map_append, List.nodup_append']
  refine ⟨hrows.sublist (List.filter_sublist.map key), hnew, ?_⟩
  intro k hk hk'
  obtain ⟨r, hr, rfl⟩ := List.mem_map.1 hk
  obtain ⟨x, hx, heq⟩ := List.mem_map.1 hk'
  have hne := List.all_eq_true.1 (List.mem_filter.1 hr).2 x hx
  exact bne_iff_ne.1 hne heq.symm

/-- A key is looked up among the new rows first. -/
theorem find?_overwrite (rows new : List α) (k : κ) :
    (overwrite key rows new).find? (fun r => key r == k) =
      (new.find? fun r => key r == k).or (rows.find? fun r => key r == k) := by
  rw [overwrite, List.find?_append, List.find?_filter]
  simp only [Bool.decide_and, Bool.decide_eq_true]
  cases hnew : new.find? fun r => key r == k with
  | none =>
    rw [Option.or_none, Option.none_or]
    congr 1
    funext r
    by_cases hr : key r = k
    · have hstays : (new.all fun x => key r != key x) = true := by
        rw [List.all_eq_true]
        intro x hx
        rw [bne_iff_ne, hr]
        exact fun heq => List.find?_eq_none.1 hnew x hx (beq_iff_eq.2 heq.symm)
      rw [hstays, Bool.true_and]
    · rw [beq_eq_false_iff_ne.2 hr, Bool.and_false]
  | some x =>
    have hk : key x = k := eq_of_beq (List.find?_some hnew :)
    have hold : rows.find? (fun r => (new.all fun x => key r != key x) && key r == k) = none := by
      rw [List.find?_eq_none]
      intro r _ hr
      obtain ⟨hstays, hr⟩ := Bool.and_eq_true_iff.1 hr
      have hne := List.all_eq_true.1 hstays x (List.mem_of_find?_eq_some hnew)
      exact bne_iff_ne.1 hne ((eq_of_beq hr).trans hk.symm)
    rw [hold]
    rfl

end Rows

/-! ### Parameters over parameters -/

/-- Leaving out the first positions is leaving out the first entries. -/
theorem filter_zipIdx_eq_drop {α : Type} (l : List α) (start n : Nat) :
    (l.zipIdx start).filter (fun q => decide (start + n ≤ q.2)) = (l.zipIdx start).drop n := by
  induction l generalizing start n with
  | nil => rw [List.zipIdx_nil, List.filter_nil, List.drop_nil]
  | cons a l ih =>
    cases n with
    | zero =>
      rw [List.drop_zero, List.filter_eq_self]
      rintro ⟨b, i⟩ hb
      exact decide_eq_true (List.mem_zipIdx hb).1
    | succ n =>
      have hstart : ∀ q : α × Nat,
          decide (start + (n + 1) ≤ q.2) = decide (start + 1 + n ≤ q.2) := by
        intro q
        rw [Nat.add_assoc, Nat.add_comm 1 n]
      rw [List.zipIdx_cons, List.filter_cons_of_neg (by simp), List.drop_succ_cons]
      simp only [hstart]
      exact ih (start + 1) n

namespace StoredParameter

theorem mem_position_ofRecord {run : Int} {f : FunctionRecord} {i : Int} :
    (∃ p ∈ ofRecord run f, p.position = i) ↔ 0 ≤ i ∧ i < f.parameters.length := by
  rw [← List.mem_map, map_position_ofRecord, List.mem_map]
  constructor
  · rintro ⟨n, hn, rfl⟩
    have hlt := List.mem_range.1 hn
    exact ⟨Int.natCast_nonneg n, Int.ofNat_lt.2 hlt⟩
  · rintro ⟨hnonneg, hlt⟩
    exact ⟨i.toNat, List.mem_range.2 (by omega), Int.toNat_of_nonneg hnonneg⟩

theorem filter_position_ofRecord (run : Int) (f : FunctionRecord) (n : Nat) :
    (ofRecord run f).filter (fun p => decide ((n : Int) ≤ p.position)) =
      (ofRecord run f).drop n := by
  rw [ofRecord, List.filter_map, ← List.map_drop, ← filter_zipIdx_eq_drop]
  congr 2
  funext q
  simp

/-- Parameters replace those at their positions. -/
theorem overwrite_ofRecord (run : Int) {f g : FunctionRecord} (h : f.address = g.address) :
    overwrite key (ofRecord run f) (ofRecord run g) =
      (ofRecord run f).drop g.parameters.length ++ ofRecord run g := by
  have hall : ∀ p ∈ ofRecord run f, ((ofRecord run g).all fun q => key p != key q) =
      decide ((g.parameters.length : Int) ≤ p.position) := by
    intro p hp
    obtain ⟨hrun, haddress⟩ := mem_ofRecord hp
    by_cases hle : (g.parameters.length : Int) ≤ p.position
    · rw [decide_eq_true hle, List.all_eq_true]
      intro q hq
      rw [bne_iff_ne]
      intro heq
      have hposition : p.position = q.position := congrArg (fun k : Int × Int × Int => k.2.2) heq
      have := (mem_position_ofRecord.1 ⟨q, hq, rfl⟩).2
      omega
    · rw [decide_eq_false hle, List.all_eq_false]
      have hnonneg := (mem_position_ofRecord.1 ⟨p, hp, rfl⟩).1
      obtain ⟨q, hq, hposition⟩ := mem_position_ofRecord.2 ⟨hnonneg, Int.not_le.1 hle⟩
      obtain ⟨hrun', haddress'⟩ := mem_ofRecord hq
      refine ⟨q, hq, ?_⟩
      rw [Bool.not_eq_true, bne_eq_false_iff_eq, key, key, hrun, hrun', haddress, haddress', h,
        hposition]
  rw [overwrite, List.filter_congr hall]
  congr 1
  exact filter_position_ofRecord run f _

/-- At an address there are the parameters of its function, if it has one. -/
theorem filter_address_ofCollector {c : Collector} (hc : c.Sound) (run : Int) (address : UInt64) :
    (ofCollector run c).filter (fun p => p.address == Word.toSigned address) =
      (c.functionAt address).elim [] (ofRecord run) := by
  cases hf : c.functionAt address with
  | some f =>
    obtain ⟨e, he, rfl, rfl⟩ := hc.functionAt_eq_some_iff.1 hf
    exact filter_ofCollector hc he
  | none =>
    rw [Option.elim_none, List.filter_eq_nil_iff]
    intro p hp heq
    obtain ⟨e, he, hp⟩ := List.mem_flatMap.1 hp
    rw [beq_iff_eq, (mem_ofRecord hp).2] at heq
    have hsome := hc.functionAt_eq_some_iff.2 ⟨e, he, rfl, Word.toSigned_injective heq⟩
    rw [hf] at hsome
    cases hsome

end StoredParameter

/-! ### Functions over functions -/

namespace FunctionRecord

/-- What becomes of a function that is written over another one: the parameters
that the other has beyond its own stay. -/
def writtenOver (new old : FunctionRecord) : FunctionRecord :=
  { new with parameters := new.parameters ++ old.parameters.drop new.parameters.length }

theorem writtenOver_eq_self_iff {new old : FunctionRecord} :
    new.writtenOver old = new ↔ old.parameters.length ≤ new.parameters.length := by
  rw [← List.drop_eq_nil_iff]
  constructor
  · intro h
    exact List.append_right_eq_self.1 (congrArg parameters h)
  · intro h
    rw [writtenOver, h, List.append_nil]

/-- What is at an address where there may have been a function, and one may be written. -/
def rewritten : Option FunctionRecord → Option FunctionRecord → Option FunctionRecord
  | none, new => new
  | some old, none => some old
  | some old, some new => some (new.writtenOver old)

end FunctionRecord

theorem Collector.Sound.isShallow_of_functionAt {c : Collector} (hc : c.Sound)
    (hshallow : c.IsShallow) {address : UInt64} {f : FunctionRecord}
    (h : c.functionAt address = some f) : f.IsShallow := by
  obtain ⟨e, he, rfl, -⟩ := hc.functionAt_eq_some_iff.1 h
  exact (c.isShallow_iff.1 hshallow).2 e he

namespace Store

variable {s s₁ s₂ : Store} {run : Int} {r : StoredRun} {a b : Collector}

/-- The rows of parameters after a collector and then another were written. -/
def rewrittenParameters (run : Int) (a b : Collector) : List StoredParameter :=
  overwrite StoredParameter.key (StoredParameter.ofCollector run a)
    (StoredParameter.ofCollector run b)

theorem filter_address_rewritten (ha : a.Sound) (hb : b.Sound) (run : Int) (address : UInt64) :
    (rewrittenParameters run a b).filter (fun p => p.address == Word.toSigned address) =
      overwrite StoredParameter.key
        ((a.functionAt address).elim [] (StoredParameter.ofRecord run))
        ((b.functionAt address).elim [] (StoredParameter.ofRecord run)) := by
  rw [rewrittenParameters, filter_overwrite_of_key,
    StoredParameter.filter_address_ofCollector ha, StoredParameter.filter_address_ofCollector hb]
  intro p q heq
  rw [show p.address = q.address from
    congrArg (fun k : Int × Int × Int => k.2.1) (eq_of_beq heq)]

/-- The parameters of the later function are read first, then those that are left. -/
theorem parametersAt_rewritten (ha : a.Sound) (hb : b.Sound) (run : Int) {address : UInt64}
    {f g : FunctionRecord} (hf : a.functionAt address = some f)
    (hg : b.functionAt address = some g) :
    parametersAt (rewrittenParameters run a b) (Word.toSigned address) =
      StoredParameter.ofRecord run g ++
        (StoredParameter.ofRecord run f).drop g.parameters.length := by
  have haddress : f.address = g.address :=
    (ha.address_of_functionAt hf).trans (hb.address_of_functionAt hg).symm
  refine parametersAt_eq ?_ (List.pairwise_append.2
    ⟨StoredParameter.pairwise_position_ofRecord run g,
      (StoredParameter.pairwise_position_ofRecord run f).drop, ?_⟩)
  · rw [filter_address_rewritten ha hb, hf, hg]
    exact (StoredParameter.overwrite_ofRecord run haddress) ▸ List.perm_append_comm
  · intro p hp q hq
    have hlt := (StoredParameter.mem_position_ofRecord.1 ⟨p, hp, rfl⟩).2
    rw [← StoredParameter.filter_position_ofRecord] at hq
    have hle := of_decide_eq_true (List.mem_filter.1 hq).2
    exact Int.lt_of_lt_of_le hlt hle

/-- A function that is alone at its address is read with its parameters. -/
theorem parametersAt_rewritten_of_alone (ha : a.Sound) (hb : b.Sound) (run : Int)
    {address : UInt64} {f : FunctionRecord}
    (h : a.functionAt address = some f ∧ b.functionAt address = none ∨
      a.functionAt address = none ∧ b.functionAt address = some f) :
    parametersAt (rewrittenParameters run a b) (Word.toSigned address) =
      StoredParameter.ofRecord run f := by
  refine parametersAt_eq ?_ (StoredParameter.pairwise_position_ofRecord run f)
  rw [filter_address_rewritten ha hb]
  rcases h with ⟨hf, hg⟩ | ⟨hf, hg⟩
  · rw [hf, hg, Option.elim_some, Option.elim_none, overwrite_nil_right]
  · rw [hf, hg, Option.elim_some, Option.elim_none, overwrite_nil]

/-- **A function that is read after two writes** has its own parameters first and then
those that were left. -/
theorem functionOf_rewritten (ha : a.Sound) (hb : b.Sound) (hashallow : a.IsShallow)
    (hbshallow : b.IsShallow) (run : Int) (address : UInt64) :
    ((b.functionAt address).or (a.functionAt address)).map
        (fun f => functionOf (rewrittenParameters run a b) (.ofRecord run f)) =
      FunctionRecord.rewritten (a.functionAt address) (b.functionAt address) := by
  cases hf : a.functionAt address with
  | none =>
    cases hg : b.functionAt address with
    | none => rfl
    | some g =>
      have hshallow := hb.isShallow_of_functionAt hbshallow hg
      obtain rfl := hb.address_of_functionAt hg
      rw [Option.or_none, Option.map_some, functionOf_ofRecord hshallow.1,
        parametersAt_rewritten_of_alone ha hb run (.inr ⟨hf, hg⟩),
        StoredParameter.map_ofText_ofRecord hshallow]
      rfl
  | some f =>
    have hfshallow := ha.isShallow_of_functionAt hashallow hf
    cases hg : b.functionAt address with
    | none =>
      obtain rfl := ha.address_of_functionAt hf
      rw [Option.none_or, Option.map_some, functionOf_ofRecord hfshallow.1,
        parametersAt_rewritten_of_alone ha hb run (.inl ⟨hf, hg⟩),
        StoredParameter.map_ofText_ofRecord hfshallow]
      rfl
    | some g =>
      have hgshallow := hb.isShallow_of_functionAt hbshallow hg
      obtain rfl := hb.address_of_functionAt hg
      rw [Option.some_or, Option.map_some, functionOf_ofRecord hgshallow.1,
        parametersAt_rewritten ha hb run hf hg, List.map_append, List.map_drop,
        StoredParameter.map_ofText_ofRecord hgshallow,
        StoredParameter.map_ofText_ofRecord hfshallow]
      rfl

/-! ### Two writes and a load -/

theorem AreTexts.overwrite {ts ts' : List StoredType} {ps ps' : List StoredParameter}
    {fs fs' : List StoredFunction} (h : AreTexts ts ps fs) (h' : AreTexts ts' ps' fs') :
    AreTexts (overwrite StoredType.key ts ts') (overwrite StoredParameter.key ps ps')
      (overwrite StoredFunction.key fs fs') where
  types := fun t ht => (mem_overwrite ht).elim (h.types t) (h'.types t)
  parameters := fun p hp => (mem_overwrite hp).elim (h.parameters p) (h'.parameters p)
  functions := fun f hf => (mem_overwrite hf).elim (h.functions f) (h'.functions f)

theorem overwrite_typesOfCollector (run : Int) (a b : Collector) :
    overwrite StoredType.key (StoredType.ofCollector run a) (StoredType.ofCollector run b) =
      (overwrite TypeEntry.name a.types.toList b.types.toList).map (StoredType.ofEntry run) := by
  refine overwrite_map ?_ _ _
  intro x y
  rw [Bool.eq_iff_iff, beq_iff_eq, beq_iff_eq]
  exact ⟨congrArg Prod.snd, congrArg (Prod.mk run)⟩

theorem overwrite_functionsOfCollector (run : Int) (a b : Collector) :
    overwrite StoredFunction.key (StoredFunction.ofCollector run a)
        (StoredFunction.ofCollector run b) =
      (overwrite FunctionEntry.address a.functions.toList b.functions.toList).map
        fun e => StoredFunction.ofRecord run e.function := by
  refine overwrite_map ?_ _ _
  intro x y
  rw [Bool.eq_iff_iff, beq_iff_eq, beq_iff_eq]
  exact ⟨fun h => Word.toSigned_injective (congrArg Prod.snd h),
    fun h => congrArg (fun address => (run, Word.toSigned address)) h⟩

/-- Two writes leave rows that can be read, and no entry is lost. -/
theorem loadFindings_rewritten (hrun : s.run? run = some r) (hnone : s.HasNoFindings run)
    (ha : a.Sound) (hb : b.Sound) (hashallow : a.IsShallow) (hbshallow : b.IsShallow)
    (h₁ : s.writeFindings run a = .ok s₁) (h₂ : s₁.writeFindings run b = .ok s₂) :
    ∃ loaded, s₂.loadFindings run = .ok loaded ∧ loaded.Sound ∧
      loaded.types.toList = (overwrite TypeEntry.name a.types.toList b.types.toList).map
        (TypeEntry.creditedTo r.parser) ∧
      loaded.functions.toList =
        (overwrite FunctionEntry.address a.functions.toList b.functions.toList).map fun e =>
          { function := functionOf (rewrittenParameters run a b) (.ofRecord run e.function)
            source := some r.parser } := by
  obtain ⟨htypes₁, hfunctions₁, hparameters₁⟩ := rowsOf_of_writeFindings h₁ ha
  obtain ⟨htypes₂, hfunctions₂, hparameters₂⟩ := rowsOf_of_writeFindings h₂ hb
  rw [htypes₁, hnone.types, overwrite_nil] at htypes₂
  rw [hfunctions₁, hnone.functions, overwrite_nil] at hfunctions₂
  rw [hparameters₁, hnone.parameters, overwrite_nil] at hparameters₂
  have hrun₁ : s₁.run? run = some r := by rwa [run?, runs_of_writeFindings h₁]
  have htexts := ((areTexts_ofCollector_iff run a).2 hashallow).overwrite
    ((areTexts_ofCollector_iff run b).2 hbshallow)
  rw [loadFindings_of_writeFindings hrun₁ h₂, htypes₂, hfunctions₂, hparameters₂]
  rw [overwrite_typesOfCollector, overwrite_functionsOfCollector] at htexts ⊢
  obtain ⟨loaded, hok, hsound, htypes, hfunctions⟩ := assemble_ok r.parser htexts
    (List.forall_mem_map.2 fun e he => (mem_overwrite he).elim (ha.typeNamed e) (hb.typeNamed e))
    (by
      rw [List.map_map]
      exact nodup_overwrite ha.types.nodup hb.types.nodup)
    (List.forall_mem_map.2 fun e he =>
      (mem_overwrite he).elim (ha.functionNamed e) (hb.functionNamed e))
    (by
      rw [List.map_map]
      simp only [Function.comp_def, StoredFunction.ofRecord, Word.ofSigned_toSigned]
      exact nodup_overwrite ha.functions.nodup hb.functions.nodup)
  refine ⟨loaded, hok, hsound, ?_, ?_⟩
  · rw [htypes, List.map_map]
    apply List.map_congr_left
    intro e he
    have hshallow : e.type.IsShallow := (mem_overwrite he).elim
      ((a.isShallow_iff.1 hashallow).1 e) ((b.isShallow_iff.1 hbshallow).1 e)
    simp only [Function.comp, StoredType.ofEntry, DataType.ofText_encode hshallow,
      TypeEntry.creditedTo]
  · rw [hfunctions, List.map_map]
    rfl

/-- **What two writes under one run leave.**  The second wins for every type and every
function, except that a function that is written over one with more parameters keeps
the rest of these.  So it wins throughout exactly if there is no such function. -/
theorem functionAt_of_rewrite (hrun : s.run? run = some r) (hnone : s.HasNoFindings run)
    (ha : a.Reachable) (hb : b.Reachable) (hashallow : a.IsShallow) (hbshallow : b.IsShallow)
    (h₁ : s.writeFindings run a = .ok s₁) (h₂ : s₁.writeFindings run b = .ok s₂) :
    ∃ loaded, s₂.loadFindings run = .ok loaded ∧
      (∀ name, loaded.type? name = (b.type? name).or (a.type? name)) ∧
      (∀ address, loaded.functionAt address =
        FunctionRecord.rewritten (a.functionAt address) (b.functionAt address)) ∧
      ((∀ address, loaded.functionAt address = (b.functionAt address).or (a.functionAt address)) ↔
        ∀ address f g, a.functionAt address = some f → b.functionAt address = some g →
          f.parameters.length ≤ g.parameters.length) := by
  obtain ⟨loaded, hok, hsound, htypes, hfunctions⟩ :=
    loadFindings_rewritten hrun hnone ha.sound hb.sound hashallow hbshallow h₁ h₂
  have hfunction : ∀ address, loaded.functionAt address =
      FunctionRecord.rewritten (a.functionAt address) (b.functionAt address) := by
    intro address
    rw [← functionOf_rewritten ha.sound hb.sound hashallow hbshallow run address,
      hsound.functionAt_eq, ha.sound.functionAt_eq, hb.sound.functionAt_eq, hfunctions,
      List.find?_map, ← Option.map_or, ← find?_overwrite, Option.map_map, Option.map_map]
    simp only [Function.comp_def, FunctionEntry.address, functionOf, StoredFunction.ofRecord,
      Word.ofSigned_toSigned]
  refine ⟨loaded, hok, ?_, hfunction, ?_⟩
  · intro name
    rw [hsound.type?_eq, ha.sound.type?_eq, hb.sound.type?_eq, htypes, List.find?_map,
      ← Option.map_or, ← find?_overwrite, Option.map_map]
    rfl
  · constructor
    · intro h address f g hf hg
      have heq := (hfunction address).symm.trans (h address)
      rw [hf, hg] at heq
      exact FunctionRecord.writtenOver_eq_self_iff.1 (Option.some.inj heq)
    · intro h address
      rw [hfunction address]
      cases hf : a.functionAt address with
      | none => rw [Option.or_none]; rfl
      | some f =>
        cases hg : b.functionAt address with
        | none => rfl
        | some g =>
          exact congrArg some (FunctionRecord.writtenOver_eq_self_iff.2 (h address f g hf hg))

/-- The function at the last address with a parameter more. -/
def longerFunction : FunctionRecord :=
  { lastFunction with parameters := lastFunction.parameters ++ [("phase", .int 4 true)] }

theorem isShallow_longerFunction : longerFunction.IsShallow := by
  refine ⟨isShallow_lastFunction.1, List.forall_mem_append.2
    ⟨isShallow_lastFunction.2, List.forall_mem_singleton.2 ?_⟩⟩
  show _ ≤ _
  decide

theorem functionAt_of_rewrite_longerFunction : ∃ s s₁ s₂ loaded,
    fresh.insertRun lastRun = .ok (s, 1) ∧
      s.writeFindings 1 (Collector.empty.addFunction longerFunction) = .ok s₁ ∧
      s₁.writeFindings 1 (Collector.empty.addFunction lastFunction) = .ok s₂ ∧
      s₂.loadFindings 1 = .ok loaded ∧
      loaded.functionAt lastFunction.address = some longerFunction := by
  obtain ⟨s, hnoted⟩ : ∃ s, fresh.insertRun lastRun = .ok (s, 1) := ⟨_, rfl⟩
  obtain ⟨s₁, h₁⟩ : ∃ s₁,
      s.writeFindings 1 (Collector.empty.addFunction longerFunction) = .ok s₁ := by
    cases hnoted
    exact ⟨_, rfl⟩
  obtain ⟨s₂, h₂⟩ : ∃ s₂,
      s₁.writeFindings 1 (Collector.empty.addFunction lastFunction) = .ok s₂ := by
    cases hnoted
    cases h₁
    exact ⟨_, rfl⟩
  have hlonger : longerFunction.isAnonymous = false := by decide
  have hlast : lastFunction.isAnonymous = false := by decide
  obtain ⟨loaded, hloaded, -, hfunction, -⟩ := functionAt_of_rewrite
    (by rw [run?_of_insertRun hnoted, if_pos rfl]) (intact_fresh.hasNoFindings_of_insertRun hnoted)
    (.addFunction .empty longerFunction) (.addFunction .empty lastFunction)
    (Collector.isShallow_empty.addFunction isShallow_longerFunction)
    (Collector.isShallow_empty.addFunction isShallow_lastFunction) h₁ h₂
  refine ⟨s, s₁, s₂, loaded, hnoted, h₁, h₂, hloaded, ?_⟩
  have ha : (Collector.empty.addFunction longerFunction).functionAt lastFunction.address =
      some longerFunction := by
    rw [(Collector.sound_empty.addFunction _).functionAt_eq, Collector.addFunction_empty hlonger]
    rfl
  have hb : (Collector.empty.addFunction lastFunction).functionAt lastFunction.address =
      some lastFunction := by
    rw [(Collector.sound_empty.addFunction _).functionAt_eq, Collector.addFunction_empty hlast]
    rfl
  rw [hfunction, ha, hb]
  rfl

end Store

end DebugCatalog
