import DebugCatalog.Command.Run
import DebugCatalog.Proofs.Collector.Listing
import DebugCatalog.Proofs.Project.Opening

/-!
# Names in the listing of functions

A function has up to three names, and a collector turns away those that have none.  The row of a
function has a display name, the first of the three that there is, and it has the full name.  A
line of text shows the full name, which may be the one that is missing.

* `held_of_loadBinary`: what a store gives back is a collector that somebody may hold, whatever is
  in the store.
* `brings_showFunctions`: the command prints the lines of such a collector and nothing else.
* `names_of_functionLines`: what the lines show, and exactly when each shows a name.
-/

namespace DebugCatalog

/-- What the listing of functions says in text mode, under its heading. -/
def Collector.functionLines (c : Collector) : List String :=
  c.functionRows.map FunctionRow.line

/-! ### What a store gives back -/

namespace Collector

variable {c : Collector}

theorem Held.foldl {ε : Type} {step : Collector → ε → Collector} (h : c.Held)
    (hstep : ∀ c e, Held c → Held (step c e)) (es : List ε) : (es.foldl step c).Held := by
  induction es generalizing c with
  | nil => exact h
  | cons e es ih => exact ih (hstep c e h)

theorem Held.foldl_merge {cs : List Collector} (h : c.Held) (hcs : ∀ d ∈ cs, d.Held) :
    (cs.foldl (fun merged d => (merged.merge d).1) c).Held := by
  induction cs generalizing c with
  | nil => exact h
  | cons d cs ih =>
    obtain ⟨hd, hcs⟩ := List.forall_mem_cons.1 hcs
    exact ih (h.merge hd) hcs

end Collector

namespace Store

variable {s : Store} {c : Collector}

theorem held_of_loadFindings {run : Int} (h : s.loadFindings run = .ok c) : c.Held := by
  obtain ⟨runs, -, h⟩ := exists_of_bind_eq_ok h
  dsimp only at h
  split at h
  · next r _ =>
    obtain ⟨parser, -, h⟩ := exists_of_bind_eq_ok h
    obtain ⟨_, -, h⟩ := exists_of_bind_eq_ok h
    obtain ⟨types, -, h⟩ := exists_of_bind_eq_ok h
    obtain ⟨_, -, h⟩ := exists_of_bind_eq_ok h
    obtain ⟨_, -, h⟩ := exists_of_bind_eq_ok h
    obtain ⟨_, -, h⟩ := exists_of_bind_eq_ok h
    obtain ⟨functions, -, h⟩ := exists_of_bind_eq_ok h
    cases h
    have htypes := (Collector.Held.empty.given parser).foldl
      (fun c t hc => hc.addType t.1 t.2) types
    exact .givenBack .empty (htypes.foldl (fun c f hc => hc.addFunction f) functions)
  · cases h

theorem held_of_loadBinary {binary : String} {parser : Option String}
    (h : s.loadBinary binary parser = .ok c) : c.Held := by
  obtain ⟨runs, -, h⟩ := exists_of_bind_eq_ok h
  obtain ⟨found, hfound, h⟩ := exists_of_bind_eq_ok h
  cases h
  refine Collector.Held.empty.foldl_merge fun d hd => ?_
  obtain ⟨run, -, hload⟩ := exists_of_forall₂ (forall₂_of_mapM hfound).flip hd
  exact held_of_loadFindings hload

end Store

/-! ### What a command prints -/

namespace OnDisk

variable {α β ε : Type} {P : α → Prop} {Q : β → Prop}

/-- Wherever they are done, the steps fail or bring something that has the property. -/
def Brings (P : α → Prop) (x : ExceptT ε OnDisk α) : Prop :=
  ∀ now d a d', runOn x.run now d = (.ok a, d') → P a

theorem brings_pure {a : α} (h : P a) : Brings P (pure a : ExceptT ε OnDisk α) := by
  intro now d b d' hrun
  cases hrun
  exact h

theorem Brings.bind {x : ExceptT ε OnDisk α} {f : α → ExceptT ε OnDisk β} (hx : Brings P x)
    (hf : ∀ a, P a → Brings Q (f a)) : Brings Q (x >>= f) := by
  intro now d b d'' hrun
  obtain ⟨result, d', hfirst⟩ : ∃ result d', runOn x.run now d = (result, d') := ⟨_, _, rfl⟩
  rw [ExceptT.run_bind, runOn_bind hfirst] at hrun
  cases result with
  | ok a => exact hf a (hx now d a d' hfirst) now d' b d'' hrun
  | error e => cases hrun

/-- What comes first does not matter. -/
theorem Brings.after {x : ExceptT ε OnDisk α} {f : α → ExceptT ε OnDisk β}
    (hf : ∀ a, Brings Q (f a)) : Brings Q (x >>= f) :=
  Brings.bind (P := fun _ => True) (fun _ _ _ _ _ => trivial) fun a _ => hf a

end OnDisk

open OnDisk (Brings)

theorem OnDisk.runOn_lift {α ε : Type} {x : OnDisk α} {now : String} {d d' : Disk} {a : α}
    (h : runOn x now d = (a, d')) :
    runOn (monadLift x : ExceptT ε OnDisk α).run now d = (.ok a, d') := by
  change (Except.ok (runOn x now d).1, (runOn x now d).2) = _
  rw [h]

theorem Failure.brings_during {α ε : Type} {P : α → Prop} {action : OnDisk (Except ε α)}
    (h : Brings P (ExceptT.mk action)) (tasks : List String) (cause : ε → Failure.Cause) :
    Brings P (Failure.during tasks cause action) := by
  intro now d a d'' hrun
  obtain ⟨result, d', haction⟩ : ∃ result d', OnDisk.runOn action now d = (result, d') :=
    ⟨_, _, rfl⟩
  rw [Failure.during, OnDisk.runOn_bind_ok (OnDisk.runOn_lift haction)] at hrun
  cases result with
  | ok b =>
    cases hrun
    exact h now d a d'' haction
  | error e => cases hrun

namespace Project

theorem brings_query {α : Type} {P : α → Prop} {f : Store → Except StoreError α}
    (h : ∀ s a, f s = .ok a → P a) (p : Project OnDisk) : Brings P (ExceptT.mk (p.query f)) := by
  intro now d a d' hrun
  obtain ⟨loaded, d₁, hload⟩ : ∃ loaded d₁,
      OnDisk.runOn (Host.loadStore (m := OnDisk) p.database) now d = (loaded, d₁) := ⟨_, _, rfl⟩
  change OnDisk.runOn (p.query f) now d = _ at hrun
  rw [query, OnDisk.runOn_bind hload] at hrun
  obtain ⟨s, -, hf⟩ := exists_of_bind_eq_ok (congrArg Prod.fst hrun)
  exact h s a hf

/-- What was brought is still there when the project is closed. -/
theorem brings_closed {α : Type} {P : α → Prop} {x : ExceptT Failure OnDisk α} (h : Brings P x)
    (p : Project OnDisk) :
    Brings P (ExceptT.mk (x.run >>= fun result => p.close >>= fun _ => pure result)) := by
  intro now d a d'' hrun
  obtain ⟨result, d', hx⟩ : ∃ result d', OnDisk.runOn x.run now d = (result, d') := ⟨_, _, rfl⟩
  change OnDisk.runOn (x.run >>= fun result => p.close >>= fun _ => pure result) now d = _ at hrun
  rw [OnDisk.runOn_bind hx] at hrun
  obtain rfl : result = .ok a := congrArg Prod.fst hrun
  exact h now d a d' hx

end Project

namespace Command

theorem brings_withProject {α : Type} {P : α → Prop}
    {action : Project OnDisk → ExceptT Failure OnDisk α} (h : ∀ p, Brings P (action p))
    (root : String) : Brings P (withProject root action) :=
  .after fun _ => .after fun p => p.brings_closed (h p)

theorem brings_knowledge (binary : String) (parser : Option String) (p : Project OnDisk) :
    Brings Collector.Held (knowledge binary parser p) := by
  refine .after fun known => ?_
  dsimp only
  split
  · exact .after fun _ => Failure.brings_during
      (Project.brings_query (fun _ _ => Store.held_of_loadBinary) p) _ _
  · exact Failure.brings_during (Project.brings_query (fun _ _ => Store.held_of_loadBinary) p) _ _

/-- In text mode, the command prints the lines of a collector that somebody may hold. -/
theorem brings_showFunctions (root binary : String) (parser : Option String) :
    Brings (fun text => ∃ c : Collector, c.Held ∧ text = listing "Functions" c.functionLines)
      (showFunctions (m := OnDisk) root binary parser false) :=
  (brings_withProject (brings_knowledge binary parser) root).bind fun c hc =>
    OnDisk.brings_pure ⟨c, hc, rfl⟩

end Command

/-! ### What a line shows -/

/-- There is a name to display as soon as there is one at all. -/
theorem FunctionRecord.displayName_ne {f : FunctionRecord} (h : f.isAnonymous = false) :
    f.displayName ≠ "" := by
  rw [displayName]
  cases hfound : [f.shortName, f.fullName, f.rawName].find? fun name => name != "" with
  | some name =>
    have hname := List.find?_some hfound
    exact bne_iff_ne.1 hname
  | none =>
    have hnone := List.find?_eq_none.1 hfound
    simp only [List.forall_mem_cons, bne_iff_ne, not_not] at hnone
    obtain ⟨hshort, hfull, hraw, -⟩ := hnone
    rw [isAnonymous, hshort, hfull, hraw] at h
    exact absurd h (by decide)

/-- A line has this name between the address and the parser of a function. -/
def FunctionEntry.Shows (e : FunctionEntry) (line name : String) : Prop :=
  line = "- " ++ formatAddress e.address ++ " " ++ name ++ credit e.source

theorem FunctionEntry.shows_line_iff (e : FunctionEntry) (name : String) :
    e.Shows e.row.line name ↔ name = e.function.fullName := by
  rw [Shows, eq_comm]
  exact (String.append_left_inj _).trans (String.append_right_inj _)

namespace Collector

/-- **A line shows the full name, and that may be missing.**  Whatever collector somebody holds,
there is one line for each function, which shows the full name of it and no other text.  So every
line shows a name exactly if all functions have a full name.  A display name is there in any case.
In text mode, the command prints the lines of such a collector. -/
theorem names_of_functionLines {c : Collector} (hc : c.Held) :
    (∃ es : List FunctionEntry, es.Perm c.functions.toList ∧
      List.Forall₂ (fun line e => ∀ name, e.Shows line name ↔ name = e.function.fullName)
        c.functionLines es ∧
      (List.Forall₂ (fun line e => ∃ name, name ≠ "" ∧ e.Shows line name) c.functionLines es ↔
        ∀ e ∈ c.functions.toList, e.function.fullName ≠ "") ∧
      ∀ e ∈ c.functions.toList, e.function.displayName ≠ "") ∧
    ∀ (root binary : String) (parser : Option String),
      Brings (fun text => ∃ c : Collector, c.Held ∧ text = listing "Functions" c.functionLines)
        (Command.showFunctions (m := OnDisk) root binary parser false) := by
  refine ⟨?_, Command.brings_showFunctions⟩
  obtain ⟨es, hperm, hrows⟩ := c.exists_functionRows_eq
  have hlines : c.functionLines = es.map fun e => e.row.line := by
    rw [functionLines, hrows, List.map_map]
    rfl
  have hdisplay (e : FunctionEntry) (he : e ∈ c.functions.toList) : e.function.displayName ≠ "" :=
    FunctionRecord.displayName_ne (hc.sound.functionNamed e he)
  refine ⟨es, hperm, ?_, ?_, hdisplay⟩
  · rw [hlines, List.forall₂_map_left_iff, List.forall₂_same]
    exact fun e _ => e.shows_line_iff
  · rw [hlines, List.forall₂_map_left_iff, List.forall₂_same]
    simp only [FunctionEntry.shows_line_iff, exists_eq_right, hperm.mem_iff]

/-- A symbol of which the mangled name is a hash and nothing else. -/
def hashSymbol : Symbol where
  name := "_ZN17h0123456789abcdefE"
  address := 0x20
  size := none
  kind := .function

/-- The path of such a symbol is empty, and the line has nothing where the name should be. -/
theorem names_of_functionLines_hashSymbol : ∃ (c : Collector) (e : FunctionEntry),
    c = collected "symbols" [.function (hashSymbol.functionRecord Mangling.demangle)] ∧ c.Held ∧
    e.function.displayName = "_ZN17h0123456789abcdefE" ∧
    c.functionLines = ["- 0x00000020  [symbols]"] ∧ e.Shows "- 0x00000020  [symbols]" "" ∧
    ¬ ∃ name, name ≠ "" ∧ e.Shows "- 0x00000020  [symbols]" name := by
  let e : FunctionEntry :=
    { function := hashSymbol.functionRecord Mangling.demangle, source := some "symbols" }
  have hheld := held_collected "symbols" [.function (hashSymbol.functionRecord Mangling.demangle)]
  have hfunctions : (collected "symbols"
      [.function (hashSymbol.functionRecord Mangling.demangle)]).functions.toList = [e] :=
    toList_functions_collected _ _
  have hlines : (collected "symbols"
      [.function (hashSymbol.functionRecord Mangling.demangle)]).functionLines = [e.row.line] := by
    rw [functionLines, functionRows, hfunctions, List.mergeSort_of_pairwise (by decide)]
    rfl
  obtain ⟨es, hperm, hshown, -⟩ := (names_of_functionLines hheld).1
  rw [hfunctions, List.perm_singleton] at hperm
  rw [hperm, hlines, List.forall₂_cons] at hshown
  have hempty : e.function.fullName = "" := rfl
  have hline : e.row.line = "- 0x00000020  [symbols]" := by decide +kernel
  rw [hline, hempty] at hshown
  refine ⟨_, e, rfl, hheld, rfl, hlines.trans (congrArg (fun line => [line]) hline),
    (hshown.1 "").2 rfl, ?_⟩
  rintro ⟨name, hname, hshows⟩
  exact hname ((hshown.1 name).1 hshows)

end Collector

end DebugCatalog
