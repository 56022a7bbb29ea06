import DebugCatalog.Parser.Session
import DebugCatalog.Proofs.Parser.Registry
import Mathlib.Logic.Function.Basic

/-!
# Registries of a session

A session registers parsers here and there, copies registries and fills them with the standard
parsers.  A ledger writes down beside the session what was registered in which registry.

* `Ledger.Sound.step`: whatever is done next, every registry has exactly the parsers that the
  ledger lists for it, and comes about by registering.
* `Ledger.registryAt_run_of_ne`: what is done with one registry is not noticed in another one,
  also if that is a copy of it or was copied from it.
* `registries_of_reached` says what this means for names and lookups, and what a further
  registration does.
-/

namespace DebugCatalog

namespace Session

/-! ### Registries at places -/

/-- Where a session has a registry. -/
inductive Place where
  | shared
  | named (name : String)
  deriving DecidableEq

variable {s s' : Session} {place other : Place} {name : String} {behavior : Parser.Behavior}
  {p : Parser} {r : Registry}

def registryAt (s : Session) : Place → Registry
  | .shared => s.shared
  | .named name => s.registry name

def setRegistryAt (s : Session) (place : Place) (r : Registry) : Session :=
  match place with
  | .shared => { s with shared := r }
  | .named name => s.setRegistry name r

def registerAt (s : Session) (place : Place) (name : String) (behavior : Parser.Behavior) :
    Except Parser.Error (Session × Parser) :=
  match place with
  | .shared => s.registerShared name behavior
  | .named registry => s.register registry name behavior

/-- Copies a registry.  The copy has a name, since there is one shared registry only. -/
def copyAt (s : Session) (source : Place) (target : String) : Session :=
  match source with
  | .shared => s.copyShared target
  | .named source => s.copyRegistry source target

theorem registryAt_setRegistryAt (s : Session) (place : Place) (r : Registry) :
    (s.setRegistryAt place r).registryAt = Function.update s.registryAt place r := by
  funext other
  cases place with
  | shared => cases other <;> rfl
  | named name =>
    cases other with
    | shared => rfl
    | named other =>
      by_cases h : other = name
      · subst h
        simp [setRegistryAt, setRegistry, registryAt, registry]
      · simp [setRegistryAt, setRegistry, registryAt, registry, List.lookup_cons,
          beq_eq_false_iff_ne.2 h, h]

theorem registryAt_setRegistryAt_self (s : Session) (place : Place) (r : Registry) :
    (s.setRegistryAt place r).registryAt place = r := by
  rw [registryAt_setRegistryAt, Function.update_self]

theorem copyAt_eq (s : Session) (source : Place) (target : String) :
    s.copyAt source target = s.setRegistryAt (.named target) (s.registryAt source) := by
  cases source <;> rfl

theorem registerAt_eq (s : Session) (place : Place) (name : String) (behavior : Parser.Behavior) :
    s.registerAt place name behavior =
      match (s.registryAt place).register s.next name behavior with
      | .ok (r, p) => .ok ({ s with next := s.next + 1 }.setRegistryAt place r, p)
      | .error e => .error e := by
  cases place with
  | shared =>
    change s.registerShared name behavior = _
    rw [registerShared]
    cases h : s.shared.register s.next name behavior <;> simp only [registryAt, h] <;> rfl
  | named registry =>
    change s.register registry name behavior = _
    rw [register]
    cases h : (s.registry registry).register s.next name behavior <;>
      simp only [registryAt, h] <;> rfl

/-- A session registers a parser exactly if the registry at that place does. -/
theorem registerAt_eq_ok_iff : s.registerAt place name behavior = .ok (s', p) ↔
    ∃ r, (s.registryAt place).register s.next name behavior = .ok (r, p) ∧
      s' = { s with next := s.next + 1 }.setRegistryAt place r := by
  rw [registerAt_eq]
  split
  · next r q h =>
    rw [h]
    constructor
    · intro hok
      cases hok
      exact ⟨r, rfl, rfl⟩
    · rintro ⟨r', hr, rfl⟩
      cases hr
      rfl
  · next e h =>
    rw [h]
    exact ⟨nofun, fun ⟨_, hr, _⟩ => nomatch hr⟩

theorem registerAt_of_error {e : Parser.Error}
    (h : (s.registryAt place).register s.next name behavior = .error e) :
    s.registerAt place name behavior = .error e := by
  rw [registerAt_eq, h]

theorem registryAt_of_registerAt
    (h : s.registerAt place name behavior = .ok (s', p)) :
    ∃ r, (s.registryAt place).register s.next name behavior = .ok (r, p) ∧
      s'.registryAt = Function.update s.registryAt place r := by
  obtain ⟨r, hr, rfl⟩ := registerAt_eq_ok_iff.1 h
  exact ⟨r, hr, registryAt_setRegistryAt _ place r⟩

/-! ### Deeds and what they leave behind -/

/-- What a session does with registries. -/
inductive Deed where
  | register (place : Place) (name : String) (behavior : Parser.Behavior)
  | copy (source : Place) (target : String)
  | fill (target : String)

/-- The place whose registry a deed may change. -/
def Deed.target : Deed → Place
  | register place _ _ => place
  | copy _ target => .named target
  | fill target => .named target

/-- A session, and for each place what was registered in the registry there. -/
structure Ledger where
  session : Session
  entries : Place → List Parser

namespace Ledger

def initial : Ledger where
  session := .initial
  entries
    | .shared => [Parser.symbolTable Mangling.demangle 0]
    | .named _ => []

/-- A deed is done.  A registration that is refused leaves everything as it is, and a copy
takes over what was registered in its source. -/
def step (l : Ledger) : Deed → Ledger
  | .register place name behavior =>
    match l.session.registerAt place name behavior with
    | .ok (s, p) =>
      { session := s
        entries := Function.update l.entries place (l.entries place ++ [p]) }
    | .error _ => l
  | .copy source target =>
    { session := l.session.copyAt source target
      entries := Function.update l.entries (.named target) (l.entries source) }
  | .fill target =>
    { session := l.session.fillRegistry target
      entries := Function.update l.entries (.named target)
        [Parser.symbolTable Mangling.demangle l.session.next] }

def run (l : Ledger) (deeds : List Deed) : Ledger :=
  deeds.foldl step l

/-- A ledger that a session has after some deeds. -/
inductive Reached : Ledger → Prop
  | initial : Reached .initial
  | step {l : Ledger} (hl : Reached l) (d : Deed) : Reached (l.step d)

/-- Every registry comes about by registering, and has what the ledger lists. -/
def Sound (l : Ledger) : Prop :=
  ∀ place, (l.session.registryAt place).Reachable ∧
    (l.session.registryAt place).list = l.entries place

variable {l : Ledger} {d : Deed}

theorem sound_initial : initial.Sound := by
  intro place
  cases place with
  | shared => exact ⟨Registry.reachable_standard 0, Registry.list_standard 0⟩
  | named name => exact ⟨.empty, rfl⟩

/-- It is enough to look at the one place where a registry is set. -/
theorem Sound.update (h : l.Sound) {s : Session} (place : Place) {r : Registry} {ps : List Parser}
    (hs : s.registryAt = Function.update l.session.registryAt place r) (hr : r.Reachable)
    (hlist : r.list = ps) :
    Sound { session := s, entries := Function.update l.entries place ps } := by
  intro other
  dsimp only
  rw [hs]
  by_cases hother : other = place
  · subst hother
    rw [Function.update_self, Function.update_self]
    exact ⟨hr, hlist⟩
  · rw [Function.update_of_ne hother, Function.update_of_ne hother]
    exact h other

theorem Sound.step (h : l.Sound) (d : Deed) : (l.step d).Sound := by
  cases d with
  | register place name behavior =>
    rw [Ledger.step]
    split
    · next s p hok =>
      obtain ⟨r, hr, hs⟩ := registryAt_of_registerAt hok
      refine h.update place hs ((h place).1.register hr) ?_
      rw [Registry.list_of_register hr, (h place).2]
    · exact h
  | copy source target =>
    refine h.update (.named target) ?_ (h source).1 (h source).2
    rw [copyAt_eq, registryAt_setRegistryAt]
  | fill target =>
    exact h.update (.named target) (registryAt_setRegistryAt _ (.named target) _)
      (Registry.reachable_standard _) (Registry.list_standard _)

theorem Reached.sound (h : l.Reached) : l.Sound := by
  induction h with
  | initial => exact sound_initial
  | step _ d ih => exact ih.step d

/-- A deed is noticed at its place only. -/
theorem registryAt_step_of_ne (l : Ledger) (h : d.target ≠ place) :
    (l.step d).session.registryAt place = l.session.registryAt place := by
  cases d with
  | register changed name behavior =>
    rw [step]
    split
    · next s p hok =>
      obtain ⟨r, -, hs⟩ := registryAt_of_registerAt hok
      exact (congrFun hs place).trans (Function.update_of_ne h.symm _ _)
    · rfl
  | copy source target =>
    change (l.session.copyAt source target).registryAt place = _
    rw [copyAt_eq, registryAt_setRegistryAt]
    exact Function.update_of_ne h.symm _ _
  | fill target =>
    exact (congrFun (registryAt_setRegistryAt _ (.named target) _) place).trans
      (Function.update_of_ne h.symm _ _)

theorem registryAt_run_of_ne (l : Ledger) {deeds : List Deed} (h : ∀ d ∈ deeds, d.target ≠ place) :
    (l.run deeds).session.registryAt place = l.session.registryAt place := by
  induction deeds generalizing l with
  | nil => rfl
  | cons d deeds ih =>
    obtain ⟨hd, hdeeds⟩ := List.forall_mem_cons.1 h
    exact (ih (l.step d) hdeeds).trans (registryAt_step_of_ne l hd)

theorem step_register_of_error {e : Parser.Error}
    (h : l.session.registerAt place name behavior = .error e) :
    l.step (.register place name behavior) = l := by
  rw [step, h]

end Ledger

/-- **Every registry finds exactly what was registered in it.**  Whatever a session did, the
names of a registry are those that were registered there, or in what it was copied from, in
this order; they are distinct and admissible, and under each the parser at its position is found.
A further registration is refused for its name, then for one that there is already, and leaves
the ledger as it is in both cases; else the new parser comes last.  What is done at
other places is not noticed, and a copy is at first what it was copied from. -/
theorem registries_of_reached {l : Ledger} (h : l.Reached) (place : Place) :
    (l.session.registryAt place).list = l.entries place ∧
    (l.session.registryAt place).names = (l.entries place).map Parser.name ∧
    (l.session.registryAt place).Indexed ∧
    (∀ name behavior, ¬ Registry.Admissible name →
      l.session.registerAt place name behavior = .error (.invalidName name) ∧
      l.step (.register place name behavior) = l) ∧
    (∀ name behavior, Registry.Admissible name → name ∈ (l.session.registryAt place).names →
      l.session.registerAt place name behavior = .error (.duplicate name) ∧
      l.step (.register place name behavior) = l) ∧
    (∀ name behavior, Registry.Admissible name → name ∉ (l.session.registryAt place).names →
      ∃ s, l.session.registerAt place name behavior =
          .ok (s, { registration := l.session.next, name, behavior }) ∧
        (l.step (.register place name behavior)).session = s ∧
        (s.registryAt place).list = l.entries place ++
          [{ registration := l.session.next, name, behavior }]) ∧
    (∀ deeds : List Deed, (∀ d ∈ deeds, d.target ≠ place) →
      (l.run deeds).session.registryAt place = l.session.registryAt place) ∧
    ∀ target, (l.step (.copy place target)).session.registryAt (.named target) =
      l.session.registryAt place := by
  obtain ⟨hreachable, hlist⟩ := h.sound place
  have hindexed := hreachable.indexed
  refine ⟨hlist, congrArg _ hlist, hindexed, fun name behavior hname => ?_,
    fun name behavior hname htaken => ?_, fun name behavior hname hfree => ?_,
    fun deeds => l.registryAt_run_of_ne, fun target => ?_⟩
  · have hrefused : l.session.registerAt place name behavior = .error (.invalidName name) :=
      registerAt_of_error (Registry.register_of_inadmissible _ hname _ _)
    exact ⟨hrefused, Ledger.step_register_of_error hrefused⟩
  · have hrefused : l.session.registerAt place name behavior = .error (.duplicate name) :=
      registerAt_of_error (Registry.register_of_taken hname ((hindexed.contains name).2 htaken) _ _)
    exact ⟨hrefused, Ledger.step_register_of_error hrefused⟩
  · have hnew : (l.session.registryAt place).contains name = false :=
      Bool.eq_false_iff.2 (mt (hindexed.contains name).1 hfree)
    have hregister := Registry.register_of_new hname hnew l.session.next behavior
    have hok := registerAt_eq_ok_iff.2 ⟨_, hregister, rfl⟩
    refine ⟨_, hok, ?_, ?_⟩
    · rw [Ledger.step, hok]
    · rw [registryAt_setRegistryAt_self, Registry.list_of_register hregister, hlist]
  · change (l.session.copyAt place target).registryAt (.named target) = _
    rw [copyAt_eq, registryAt_setRegistryAt_self]

/-- A copy of the shared registry gets another parser, which the shared one does not have. -/
theorem registries_of_reached_copied : ∃ l : Ledger,
    l = Ledger.initial.run [.copy .shared "mine", .register (.named "mine") "dwarf" Parser.symbols,
      .register (.named "mine") " x" Parser.symbols] ∧
    (l.session.registryAt (.named "mine")).names = ["symbols", "dwarf"] ∧
    (l.session.registryAt .shared).names = ["symbols"] ∧
    l.session.registerAt (.named "mine") "symbols" Parser.symbols =
      .error (.duplicate "symbols") := by
  have hmine : Registry.Admissible "dwarf" := (Registry.isValidName_iff _).1 (by decide)
  have hsymbols : Registry.Admissible "symbols" := (Registry.isValidName_iff _).1 (by decide)
  have hblank : ¬ Registry.Admissible " x" := mt (Registry.isValidName_iff _).2 (by decide)
  have hcopied : (Ledger.initial.step (.copy .shared "mine")).Reached := .step .initial _
  obtain ⟨-, hnames, -, -, -, hregister, -, -⟩ := registries_of_reached hcopied (.named "mine")
  obtain ⟨s, -, rfl, hlist⟩ := hregister "dwarf" Parser.symbols hmine (by rw [hnames]; decide)
  have hregistered := hcopied.step (.register (.named "mine") "dwarf" Parser.symbols)
  obtain ⟨-, -, -, hinvalid, htaken, -, -, -⟩ := registries_of_reached hregistered (.named "mine")
  obtain ⟨-, hsame⟩ := hinvalid " x" Parser.symbols hblank
  obtain ⟨-, hshared, -, -, -, -, hlater, -⟩ := registries_of_reached .initial .shared
  have hall : (((Ledger.initial.step (.copy .shared "mine")).step
      (.register (.named "mine") "dwarf" Parser.symbols)).session.registryAt
        (.named "mine")).names = ["symbols", "dwarf"] := by
    rw [Registry.names, hlist]
    rfl
  refine ⟨_, rfl, ?_, ?_, ?_⟩
  · exact (congrArg (fun l : Ledger => (l.session.registryAt (.named "mine")).names) hsame).trans hall
  · rw [hlater _ (by decide), hshared]
    rfl
  · have hduplicate := (htaken "symbols" Parser.symbols hsymbols (by rw [hall]; decide)).1
    exact (congrArg (fun l : Ledger =>
      l.session.registerAt (.named "mine") "symbols" Parser.symbols) hsame).trans hduplicate

end Session

end DebugCatalog
