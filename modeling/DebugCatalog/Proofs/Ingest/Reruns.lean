import DebugCatalog.Proofs.Ingest.History
import DebugCatalog.Proofs.Ingest.Selection
import DebugCatalog.Proofs.LastOccurrence

/-!
# Parsers that run again

Parsers of one registry run over one image, and later some of them run over it again, in the
same order and as often as one likes (`Reingested`).  They find what they found before.

* `HasRun.loadBinary_look`: what is loaded under a key is what the first parser finds that has the
  key, in the order of their last runs.
* `HasRun.isOk_loadBinary_iff`: whether the binary can be loaded depends on the parsers that
  ran, and not on how often.
* `loadBinary_of_reingested`: so a binary can be loaded after further ingests if it could be
  loaded before, under the same keys.  The entry of a key is the same exactly if all
  parsers that have the key outlast the one it was credited to.

The order in which parsers were asked for is not stored.  Parsers that always run together
keep it (`staysAhead_of_all`), and one that runs again without the others falls behind them
(`loadBinary_of_reingested_fallsBehind`).
-/

namespace DebugCatalog

/-! ### Last runs in order -/

theorem Store.map_parser_lastRuns {binary : String} {rs : List (RunRecord × Collector)}
    (h : ∀ r ∈ rs, r.1.binary = binary) :
    (lastRuns binary rs).map (fun r => r.1.parser) = (rs.map fun r => r.1.parser).dedup := by
  induction rs with
  | nil => rfl
  | cons r rs ih =>
    obtain ⟨hr, hrs⟩ := List.forall_mem_cons.1 h
    have hlast : (∀ l ∈ rs, l.1.binary = binary → l.1.parser ≠ r.1.parser) ↔
        r.1.parser ∉ rs.map fun r => r.1.parser := by
      rw [List.mem_map]
      constructor
      · rintro hlater ⟨l, hl, heq⟩
        exact hlater l hl (hrs l hl) heq
      · intro hno l hl _ heq
        exact hno ⟨l, hl, heq⟩
    rw [lastRuns, List.map_cons]
    by_cases hlater : r.1.parser ∈ rs.map fun r => r.1.parser
    · rw [if_neg (fun hcond => hlast.1 hcond.2 hlater), List.dedup_cons_of_mem hlater, ih hrs]
    · rw [if_pos ⟨hr, hlast.2 hlater⟩, List.dedup_cons_of_notMem hlater, List.map_cons, ih hrs]

namespace Ingest

open Store (Chronicle)

variable {r : Registry} {v : Image} {binary : String} {s s' : Store}
  {rs : List (RunRecord × Collector)} {blocks : List (List String)}

/-! ### Stores in which parsers ran -/

/-- A run over the image, of the parser that is registered under the name it is noted with. -/
structure Ran (r : Registry) (v : Image) (binary : String) (told : RunRecord × Collector) :
    Prop where
  binary : told.1.binary = binary
  parser : ∃ p, r.find? told.1.parser = some p ∧ told.2 = (p.finding v).collector

/-- All runs of the store are runs over the image, of the parsers with these names. -/
def HasRun (r : Registry) (v : Image) (binary : String) (names : List String) (s : Store) : Prop :=
  ∃ rs, Chronicle rs s ∧ (∀ told ∈ rs, Ran r v binary told) ∧
    (rs.map fun told => told.1.parser) = names

theorem hasRun_fresh : HasRun r v binary [] Store.fresh :=
  ⟨[], .fresh, fun _ htold => absurd htold List.not_mem_nil, rfl⟩

theorem ran_planned (hr : r.Reachable) {defaults : List String} {now path : String}
    {request : Request} : ∀ told ∈ planned r defaults now (.image v path) request,
      Ran r v (request.name.getD v.name) told := by
  intro told htold
  rw [planned] at htold
  split at htold
  · next w recorded parsers hprepare =>
    obtain ⟨himage, hselect⟩ := eq_of_prepare hprepare
    cases himage
    obtain ⟨p, hp, rfl⟩ := List.mem_map.1 htold
    exact ⟨rfl, p, find?_of_select hr hselect p hp, rfl⟩
  · exact absurd htold List.not_mem_nil

section Run

variable {defaults : List String} {now path : String} {request : Request} {names : List String}

/-- An ingest that succeeds adds the runs of the parsers it selected. -/
theorem HasRun.run_ok (hs : HasRun r v (request.name.getD v.name) names s) (hr : r.Reachable)
    {parsers : List Parser} {summary : Summary}
    (hselect : select r defaults v request.parsers = .ok parsers)
    (h : run r defaults now (.image v path) request (some s) = (.ok summary, some s')) :
    HasRun r v (request.name.getD v.name) (names ++ parsers.map Parser.name) s' := by
  obtain ⟨rs, hchronicle, hran, rfl⟩ := hs
  obtain ⟨hrun, hall⟩ := chronicle_run hchronicle h
  rw [hall summary rfl] at hrun
  refine ⟨_, hrun, List.forall_mem_append.2 ⟨hran, ran_planned hr⟩, ?_⟩
  rw [List.map_append, planned_eq rfl hselect, List.map_map]
  rfl

/-- Any ingest adds runs of the first few parsers it asked for. -/
theorem HasRun.run_again (hs : HasRun r v (request.name.getD v.name) names s) (hr : r.Reachable)
    {result : Except Error Summary} (hsome : request.parsers ≠ [])
    (h : run r defaults now (.image v path) request (some s) = (result, some s')) :
    HasRun r v (request.name.getD v.name)
      (names ++ request.parsers.take (s'.runCount - s.runCount)) s' := by
  obtain ⟨rs, hchronicle, hran, rfl⟩ := hs
  obtain ⟨hrun, -⟩ := chronicle_run hchronicle h
  refine ⟨_, hrun, List.forall_mem_append.2 ⟨hran, fun told htold =>
    ran_planned hr told (List.mem_of_mem_take htold)⟩, ?_⟩
  rw [List.map_append, List.map_take]
  cases hprepare : prepare r defaults (.image v path) request with
  | ok prepared =>
    obtain ⟨w, recorded, parsers⟩ := prepared
    obtain ⟨himage, hselect⟩ := eq_of_prepare hprepare
    rw [planned_eq himage hselect, List.map_map, ← names_of_select hr hselect hsome]
    rfl
  | error e =>
    -- Nothing was planned, so the number of runs is what it was.
    have hplanned : planned r defaults now (.image v path) request = [] := by
      rw [planned, hprepare]
    rw [hplanned, List.take_nil, List.append_nil] at hrun
    rw [hrun.runCount_eq, hchronicle.runCount_eq, Nat.sub_self, hplanned]
    rfl

/-- An ingest that succeeds runs all parsers it asked for. -/
theorem HasRun.take_of_ok (hs : HasRun r v binary names s) (hr : r.Reachable)
    (hsome : request.parsers ≠ []) {summary : Summary}
    (h : run r defaults now (.image v path) request (some s) = (.ok summary, some s')) :
    request.parsers.take (s'.runCount - s.runCount) = request.parsers := by
  obtain ⟨rs, hchronicle, -, -⟩ := hs
  obtain ⟨-, hall⟩ := chronicle_run hchronicle h
  obtain ⟨_, _, _, _, _, hrun, -, -, -, -, hok⟩ :=
    run_planned r defaults now (.image v path) request s
  rw [h] at hrun
  cases hrun
  obtain ⟨w, recorded, parsers, himage, hselect, -, -⟩ := hok summary rfl
  have hnames := congrArg (List.map fun told => told.1.parser) (hall summary rfl)
  rw [List.map_take, planned_eq himage hselect, List.map_map] at hnames
  rw [← names_of_select hr hselect hsome]
  exact hnames

end Run

/-! ### What is loaded -/

section Look

variable {ε : Type} {look : Collector → Option ε} {source : ε → Option String}

/-- What is loaded under a key of what the parser of a name finds. -/
def answer (r : Registry) (v : Image) (look : Collector → Option ε) (name : String) : Option ε :=
  (r.find? name).bind fun p => look ((p.finding v).collector.creditedTo name)

theorem source_of_answer (hlook : Collector.IsLookup look source) (name : String) (e : ε)
    (h : answer r v look name = some e) : source e = some name := by
  obtain ⟨p, -, he⟩ := Option.bind_eq_some_iff.1 h
  have hsound := (Collector.sound_finding p v).creditedTo name
  exact hlook.source name _ e hsound (Collector.isFrom_creditedTo name _) he

theorem Ran.look_creditedTo {told : RunRecord × Collector} (h : Ran r v binary told)
    (look : Collector → Option ε) :
    look (told.2.creditedTo told.1.parser) = answer r v look told.1.parser := by
  obtain ⟨p, hp, hfound⟩ := h.parser
  rw [answer, hp, Option.bind_some, hfound]

variable {names : List String}

/-- **What is loaded under a key is the first answer in the order of last runs.** -/
theorem HasRun.loadBinary_look (hs : HasRun r v binary names s)
    (hlook : Collector.IsLookup look source) {c : Collector}
    (hload : s.loadBinary binary none = .ok c) :
    look c = names.dedup.findSome? (answer r v look) := by
  obtain ⟨rs, hchronicle, hran, rfl⟩ := hs
  have hlast : ∀ told ∈ Store.lastRuns binary rs, told ∈ rs :=
    fun told htold => (Store.lastRuns_sublist binary rs).subset htold
  have hshallow := (hchronicle.isOk_loadBinary_iff binary none).1 ⟨c, hload⟩
  rw [hchronicle.loadBinary_eq hshallow] at hload
  have hsound : ∀ told ∈ Store.lastRuns binary rs, (told.2.creditedTo told.1.parser).Sound :=
    fun told htold => (hchronicle.sound told (hlast told htold)).creditedTo _
  rw [← Except.ok.inj hload, Store.countingRuns, hlook.mergeAll (List.forall_mem_map.2 hsound),
    List.findSome?_map, ← Store.map_parser_lastRuns fun told htold => (hran told htold).binary,
    List.findSome?_map]
  exact findSome?_congr fun told htold => (hran told (hlast told htold)).look_creditedTo look

/-- Whether a binary can be loaded depends on which parsers ran, and not on how often. -/
theorem HasRun.isOk_loadBinary_iff (hs : HasRun r v binary names s) :
    (∃ c, s.loadBinary binary none = .ok c) ↔
      ∀ name ∈ names, ∀ p, r.find? name = some p → (p.finding v).collector.IsShallow := by
  obtain ⟨rs, hchronicle, hran, rfl⟩ := hs
  have hnames : ∀ name, name ∈ (rs.map fun told => told.1.parser) ↔
      ∃ told ∈ Store.lastRuns binary rs, told.1.parser = name := by
    intro name
    rw [← List.mem_dedup, ← Store.map_parser_lastRuns fun told htold => (hran told htold).binary,
      List.mem_map]
  have hlast : ∀ told ∈ Store.lastRuns binary rs, Ran r v binary told :=
    fun told htold => hran told ((Store.lastRuns_sublist binary rs).subset htold)
  rw [hchronicle.isOk_loadBinary_iff, Store.countingRuns]
  constructor
  · intro hshallow name hname p hp
    obtain ⟨told, htold, rfl⟩ := (hnames name).1 hname
    obtain ⟨q, hq, hfound⟩ := (hlast told htold).parser
    rw [hq] at hp
    cases hp
    rw [← hfound]
    exact hshallow told htold
  · intro hshallow told htold
    obtain ⟨p, hp, hfound⟩ := (hlast told htold).parser
    rw [hfound]
    exact hshallow _ ((hnames _).2 ⟨told, htold, rfl⟩) p hp

end Look

/-! ### Further ingests -/

/-- Further ingests of an image under one name, whatever became of them.  Of each is told which
of the parsers that were asked for got to be recorded: if it succeeds, all of them. -/
inductive Reingested (r : Registry) (v : Image) (binary : String) :
    Store → List (List String) → Store → Prop
  | nil (s : Store) : Reingested r v binary s [] s
  | cons {s t s' : Store} {defaults : List String} {now path : String} {request : Request}
      {result : Except Error Summary} {blocks : List (List String)}
      (hname : request.name.getD v.name = binary) (hsome : request.parsers ≠ [])
      (h : run r defaults now (.image v path) request (some s) = (result, some t))
      (hrest : Reingested r v binary t blocks s') :
      Reingested r v binary s (request.parsers.take (t.runCount - s.runCount) :: blocks) s'

theorem Reingested.hasRun (h : Reingested r v binary s blocks s') (hr : r.Reachable)
    {names : List String} (hs : HasRun r v binary names s) :
    HasRun r v binary (names ++ blocks.flatten) s' := by
  induction h generalizing names with
  | nil s => rwa [List.flatten_nil, List.append_nil]
  | cons hname hsome h _ ih =>
    subst hname
    have hrest := ih (hs.run_again hr hsome h)
    rwa [List.append_assoc] at hrest

section Again

variable {parsers : List Parser} {first last : Store} {before after : Collector}

/-- All parsers that find a key outlast the one to which its entry is credited. -/
def StaysAhead {ε : Type} (v : Image) (parsers : List Parser) (blocks : List (List String))
    (look : Collector → Option ε) (winner : String) : Prop :=
  ∀ p ∈ parsers, (look (p.finding v).collector).isSome →
    OutlastsIn (parsers.map Parser.name :: blocks) p.name winner

/-- Parsers that always run together keep their order. -/
theorem staysAhead_of_all {ε : Type} (hall : ∀ k ∈ blocks, k = parsers.map Parser.name)
    (look : Collector → Option ε) (winner : String) : StaysAhead v parsers blocks look winner := by
  intro p hp _ x hx hwinner
  obtain ⟨k, hk, -⟩ := List.mem_flatten.1 hwinner
  have heq : k = parsers.map Parser.name := by
    rcases List.mem_cons.1 (hx.subset hk) with rfl | hk
    · rfl
    · exact hall k hk
  exact List.mem_flatten.2 ⟨k, hk, heq ▸ List.mem_map_of_mem hp⟩

/-- What becomes of one key if parsers run again.  `shown` is what is told of its entry. -/
theorem look_of_blocks (hparsers : ∀ p ∈ parsers, r.find? p.name = some p)
    (hnames : (parsers.map Parser.name).Nodup)
    (hblocks : ∀ k ∈ blocks, k.Sublist (parsers.map Parser.name))
    (hfirst : HasRun r v binary (parsers.map Parser.name) first)
    (hlast : HasRun r v binary (parsers.map Parser.name :: blocks).flatten last)
    (hbefore : first.loadBinary binary none = .ok before)
    (hafter : last.loadBinary binary none = .ok after) {ε δ : Type} {look : Collector → Option ε}
    {source : ε → Option String} (hlook : Collector.IsLookup look source) (shown : ε → δ) :
    ((look after).map shown).isSome = ((look before).map shown).isSome ∧
      (((look before).map shown).isSome → ∃ winner, (look before).bind source = some winner ∧
        ((look after).map shown = (look before).map shown ∧
            (look after).bind source = (look before).bind source ↔
          StaysAhead v parsers blocks (fun c => (look c).map shown) winner)) := by
  have hsign := source_of_answer (r := r) (v := v) hlook
  simp only [StaysAhead, Option.isSome_map]
  rw [hfirst.loadBinary_look hlook hbefore, hlast.loadBinary_look hlook hafter, hnames.dedup]
  refine ⟨isSome_findSome?_dedup hblocks _, fun hsome => ?_⟩
  obtain ⟨e, he⟩ := Option.isSome_iff_exists.1 hsome
  obtain ⟨winner, -, hwinner⟩ := List.exists_of_findSome?_eq_some he
  have hsource : ((parsers.map Parser.name).findSome? (answer r v look)).bind source =
      some winner := by
    rw [he, Option.bind_some, hsign winner e hwinner]
  have hahead : (∀ p ∈ parsers, (look (p.finding v).collector).isSome →
        OutlastsIn (parsers.map Parser.name :: blocks) p.name winner) ↔
      ∀ name ∈ parsers.map Parser.name, (answer r v look name).isSome →
        OutlastsIn (parsers.map Parser.name :: blocks) name winner := by
    rw [List.forall_mem_map]
    refine forall₂_congr fun p hp => ?_
    rw [answer, hparsers p hp, Option.bind_some,
      hlook.isSome_creditedTo p.name _ (Collector.sound_finding p v)]
  refine ⟨winner, hsource, ?_⟩
  rw [hahead, ← bind_findSome?_dedup_iff hnames hblocks hsign hsource]
  refine ⟨fun h => h.2.trans hsource, fun hkept => ?_⟩
  rw [findSome?_eq_of_bind hsign hkept, findSome?_eq_of_bind hsign hsource]
  exact ⟨rfl, rfl⟩

/-- **What is read back after parsers ran again.**  Keys stay.  An entry and its credit stay
exactly if the parser it is credited to stays ahead. -/
theorem loadBinary_of_reingested (hr : r.Reachable) {defaults : List String} {now path : String}
    {request : Request} {summary : Summary}
    (hselect : select r defaults v request.parsers = .ok parsers)
    (hnames : (parsers.map Parser.name).Nodup)
    (hrun : run r defaults now (.image v path) request (some Store.fresh) =
      (.ok summary, some first))
    (hagain : Reingested r v (request.name.getD v.name) first blocks last)
    (hblocks : ∀ k ∈ blocks, k.Sublist (parsers.map Parser.name)) :
    ((∃ c, last.loadBinary (request.name.getD v.name) none = .ok c) ↔
        ∃ c, first.loadBinary (request.name.getD v.name) none = .ok c) ∧
      ∀ before after, first.loadBinary (request.name.getD v.name) none = .ok before →
        last.loadBinary (request.name.getD v.name) none = .ok after →
        (∀ name, (after.type? name).isSome = (before.type? name).isSome ∧
          ((before.type? name).isSome → ∃ winner, before.typeSource name = some winner ∧
            (after.type? name = before.type? name ∧
                after.typeSource name = before.typeSource name ↔
              StaysAhead v parsers blocks (fun c => c.type? name) winner))) ∧
        ∀ address, (after.functionAt address).isSome = (before.functionAt address).isSome ∧
          ((before.functionAt address).isSome → ∃ winner,
            before.functionSource address = some winner ∧
            (after.functionAt address = before.functionAt address ∧
                after.functionSource address = before.functionSource address ↔
              StaysAhead v parsers blocks (fun c => c.functionAt address) winner)) := by
  have hparsers := find?_of_select hr hselect
  have hfirst := hasRun_fresh.run_ok hr hselect hrun
  have hlast := hagain.hasRun hr hfirst
  rw [List.nil_append] at hfirst hlast
  rw [← List.flatten_cons] at hlast
  constructor
  · rw [hfirst.isOk_loadBinary_iff, hlast.isOk_loadBinary_iff]
    simp only [mem_flatten_cons_iff hblocks]
  · intro before after hbefore hafter
    exact ⟨fun name => look_of_blocks hparsers hnames hblocks hfirst hlast hbefore hafter
        (Collector.isLookup_types name) TypeEntry.type,
      fun address => look_of_blocks hparsers hnames hblocks hfirst hlast hbefore hafter
        (Collector.isLookup_functions address) FunctionEntry.function⟩

end Again

/-- A parser that finds one function. -/
def finder (registration : Nat) (name : String) (f : FunctionRecord) : Parser where
  registration
  name
  behavior :=
    { judge := fun _ => .accepts
      pass := fun _ _ => { additions := [.function f], ending := .finished } }

/-- The function at the last address, as a symbol table has it. -/
def bareFunction : FunctionRecord :=
  { Store.lastFunction with returnType := .void, parameters := [] }

/-- Two parsers that find the same function.  The second knows more of it. -/
def twoFinders : Registry where
  parsers := (KeyedList.empty.push (finder 0 "symbols" bareFunction)).push
    (finder 1 "dwarf" Store.lastFunction)

theorem reachable_twoFinders : twoFinders.Reachable := by
  have hone := Registry.Reachable.empty.push (finder 0 "symbols" bareFunction) (by decide)
    fun p hp => absurd hp List.not_mem_nil
  exact hone.push (finder 1 "dwarf" Store.lastFunction) (by decide)
    (List.forall_mem_singleton.2 (by decide))

theorem find?_finder (registration : Nat) (name : String) {f : FunctionRecord}
    (h : f.isAnonymous = false) (v : Image) :
    ((finder registration name f).finding v).collector.functions.find? f.address =
      some ⟨f, some name⟩ := by
  have hfunctions : ((finder registration name f).finding v).collector.functions =
      KeyedList.empty.offer ⟨f, some name⟩ :=
    Collector.functions_absorbFunction .empty (e := ⟨f, some name⟩) h
  rw [hfunctions, KeyedList.sound_empty.find?_offer, KeyedList.find?_empty, Option.none_or,
    List.find?_singleton]
  exact if_pos (beq_self_eq_true _)

theorem isShallow_twoFinders (v : Image) :
    ∀ p ∈ twoFinders.list, (p.finding v).collector.IsShallow := by
  have hfinder : ∀ registration name (f : FunctionRecord), f.IsShallow →
      ((finder registration name f).finding v).collector.IsShallow := fun registration name f hf =>
    ((Collector.isShallow_empty.crediting _).addFunction hf).crediting _
  have hbare : bareFunction.IsShallow := by
    refine ⟨?_, fun p hp => absurd hp List.not_mem_nil⟩
    show _ ≤ _
    decide
  exact List.forall_mem_cons.2 ⟨hfinder _ _ _ hbare,
    List.forall_mem_singleton.2 (hfinder _ _ _ Store.isShallow_lastFunction)⟩

theorem find?_twoFinders : twoFinders.find? "symbols" = some (finder 0 "symbols" bareFunction) :=
  (reachable_twoFinders.sound.find?_eq_some_iff _ _).2 ⟨List.mem_cons_self .., rfl⟩

theorem select_twoFinders : select twoFinders [] emptyImage ["symbols"] =
    .ok [finder 0 "symbols" bareFunction] :=
  eq_of_selects reachable_twoFinders (.requested (List.cons_ne_nil _ _)
    (.cons ⟨⟨List.mem_cons_self .., rfl⟩, rfl⟩ .nil))

/-- A request to run parsers over the image without bytes. -/
def emptyRequest (parsers : List String) : Request where
  path := "/kernel"
  name := none
  parsers

/-- Both run, and then the first of them alone. -/
theorem exists_runs_twoFinders : ∃ summary first again last,
    run twoFinders [] "now" (.image emptyImage "/kernel") (emptyRequest []) (some Store.fresh) =
        (.ok summary, some first) ∧
      run twoFinders [] "now" (.image emptyImage "/kernel") (emptyRequest ["symbols"])
        (some first) = (.ok again, some last) := by
  have hprepare : prepare twoFinders [] (.image emptyImage "/kernel") (emptyRequest ["symbols"]) =
      .ok (emptyImage, "/kernel", [finder 0 "symbols" bareFunction]) :=
    prepare_eq rfl select_twoFinders
  exact ⟨_, _, _, _, rfl, by rw [run, action, hprepare]; rfl⟩

theorem loadBinary_of_reingested_fallsBehind : ∃ summary again first last before after,
    run twoFinders [] "now" (.image emptyImage "/kernel") (emptyRequest []) (some Store.fresh) =
        (.ok summary, some first) ∧
      run twoFinders [] "now" (.image emptyImage "/kernel") (emptyRequest ["symbols"])
        (some first) = (.ok again, some last) ∧
      first.loadBinary "kernel" none = .ok before ∧ last.loadBinary "kernel" none = .ok after ∧
      before.functionSource bareFunction.address = some "symbols" ∧
      ¬ (after.functionAt bareFunction.address = before.functionAt bareFunction.address ∧
        after.functionSource bareFunction.address =
          before.functionSource bareFunction.address) := by
  obtain ⟨summary, first, again, last, hrun, hagain⟩ := exists_runs_twoFinders
  have hr := reachable_twoFinders
  have hselect : select twoFinders [] emptyImage (emptyRequest []).parsers =
      .ok [finder 0 "symbols" bareFunction, finder 1 "dwarf" Store.lastFunction] := rfl
  have hfirst : HasRun twoFinders emptyImage "kernel" ["symbols", "dwarf"] first :=
    hasRun_fresh.run_ok hr hselect hrun
  have htake : (emptyRequest ["symbols"]).parsers.take (last.runCount - first.runCount) =
      ["symbols"] := hfirst.take_of_ok hr (by decide) hagain
  have hreingested : Reingested twoFinders emptyImage "kernel" first [["symbols"]] last := by
    rw [← htake]
    exact .cons rfl (by decide) hagain (.nil last)
  obtain ⟨hload, hkept⟩ := loadBinary_of_reingested hr hselect (by decide) hrun hreingested
    (List.forall_mem_singleton.2 (by decide))
  obtain ⟨before, hbefore⟩ : ∃ c, first.loadBinary "kernel" none = .ok c :=
    hfirst.isOk_loadBinary_iff.2 fun name _ p hp =>
      isShallow_twoFinders _ p (hr.find?_eq_some_iff.1 hp).1
  obtain ⟨after, hafter⟩ := hload.2 ⟨before, hbefore⟩
  have hfound : before.functions.find? bareFunction.address =
      some ⟨bareFunction, some "symbols"⟩ := by
    have hsound := Collector.sound_finding (finder 0 "symbols" bareFunction) emptyImage
    rw [hfirst.loadBinary_look (Collector.isLookup_functions bareFunction.address) hbefore,
      List.Nodup.dedup (by decide), List.findSome?_cons, answer, find?_twoFinders, Option.bind_some,
      hsound.find?_functions_creditedTo, find?_finder 0 "symbols" (by decide)]
    rfl
  have hsource : before.functionSource bareFunction.address = some "symbols" := by
    rw [Collector.functionSource, hfound]
    rfl
  refine ⟨summary, again, first, last, before, after, hrun, hagain, hbefore, hafter, hsource, ?_⟩
  obtain ⟨winner, hwinner, hiff⟩ := ((hkept before after hbefore hafter).2 bareFunction.address).2
    (by rw [Collector.functionAt, hfound]; rfl)
  rw [hsource] at hwinner
  cases hwinner
  rw [hiff]
  intro hahead
  have hfinds : ((finder 1 "dwarf" Store.lastFunction).finding emptyImage).collector.functions.find?
      bareFunction.address = some ⟨Store.lastFunction, some "dwarf"⟩ :=
    find?_finder 1 "dwarf" (by decide) emptyImage
  have hdwarf := hahead (finder 1 "dwarf" Store.lastFunction) (by simp)
    (Option.isSome_map.trans (Option.isSome_of_eq_some hfinds))
  exact absurd (hdwarf [["symbols"]] (List.suffix_cons _ _) (by decide)) (by decide)

end Ingest

end DebugCatalog
