import DebugCatalog.Proofs.Parser.Sessions
import Mathlib.Data.Finset.Card
import Std.Data.HashSet.Lemmas

/-!
# Where parsers stem from

Parsers are compared by the numbers of their registrations.  A session hands out these numbers, and
whoever holds two parsers does not see them.  `Provenance` follows beside a session what can be
seen: which calls registered something, and at which places and under which names this is found
since.  So every parser that somebody gets has a call from which it should stem.

* `Provenance.Sound.step`: whatever is done next, what is found at a place stems from the call that
  is known for the place and the name, and different calls gave different numbers.
* `Provenance.Apart.run`: places to which nothing is copied have no call in common.
* `length_eraseDups`, `size_hashSet_ofList`: how many different entries a list or a hash set has.
* `handles_of_run`: parsers are equal exactly if they stem from the same call.
-/

namespace DebugCatalog

/-! ### Lists with keys -/

theorem nodup_map_append_singleton {α : Type} {f : α → Nat} {as : List α} {a : α}
    (h : (as.map f).Nodup) (hlt : ∀ b ∈ as, f b < f a) : ((as ++ [a]).map f).Nodup := by
  rw [List.map_append, List.map_singleton, ← List.concat_eq_append]
  refine h.concat fun hmem => ?_
  obtain ⟨b, hb, heq⟩ := List.mem_map.1 hmem
  exact (hlt b hb).ne heq

section Keys

variable {α κ ι : Type} {f : α → κ} {g : α → ι} {as : List α}

/-- Entries are as many under one key as under another that tells the same ones apart. -/
theorem card_toFinset_map_congr [DecidableEq κ] [DecidableEq ι]
    (h : ∀ a ∈ as, ∀ b ∈ as, f a = f b ↔ g a = g b) :
    (as.map f).toFinset.card = (as.map g).toFinset.card := by
  induction as with
  | nil => rfl
  | cons a as ih =>
    have hrest := ih fun b hb c hc => h b (.tail _ hb) c (.tail _ hc)
    have hmem : f a ∈ (as.map f).toFinset ↔ g a ∈ (as.map g).toFinset := by
      rw [List.mem_toFinset, List.mem_toFinset, List.mem_map, List.mem_map]
      refine exists_congr fun b => and_congr_right fun hb => ?_
      exact h b (.tail _ hb) a (.head _)
    rw [List.map_cons, List.map_cons, List.toFinset_cons, List.toFinset_cons]
    by_cases hf : f a ∈ (as.map f).toFinset
    · rw [Finset.insert_eq_of_mem hf, Finset.insert_eq_of_mem (hmem.1 hf), hrest]
    · rw [Finset.card_insert_of_notMem hf, Finset.card_insert_of_notMem (mt hmem.2 hf), hrest]

variable [BEq α] (hf : ∀ a b : α, (a == b) = true ↔ f a = f b)
include hf

theorem mem_map_iff_contains {k : κ} : k ∈ as.map f ↔ ∃ a, as.contains a = true ∧ f a = k := by
  rw [List.mem_map]
  constructor
  · rintro ⟨a, ha, rfl⟩
    exact ⟨a, List.contains_iff_exists_mem_beq.2 ⟨a, ha, (hf a a).2 rfl⟩, rfl⟩
  · rintro ⟨a, ha, rfl⟩
    obtain ⟨b, hb, hab⟩ := List.contains_iff_exists_mem_beq.1 ha
    exact ⟨b, hb, ((hf a b).1 hab).symm⟩

variable [DecidableEq κ]

/-- The first of each kind are as many as there are keys. -/
theorem length_eraseDups (as : List α) : as.eraseDups.length = (as.map f).toFinset.card := by
  induction h : as.length using Nat.strong_induction_on generalizing as with
  | _ n ih =>
    subst h
    cases as with
    | nil => rfl
    | cons a as =>
      have hlength := List.length_filter_le (fun b => !b == a) as
      have hothers {k : κ} : k ∈ ((as.filter fun b => !b == a).map f).toFinset ↔
          k ∈ as.map f ∧ k ≠ f a := by
        rw [List.mem_toFinset, List.mem_map, List.mem_map]
        constructor
        · rintro ⟨b, hb, rfl⟩
          obtain ⟨hb, hne⟩ := List.mem_filter.1 hb
          exact ⟨⟨b, hb, rfl⟩, fun heq => by simp [(hf b a).2 heq] at hne⟩
        · rintro ⟨⟨b, hb, rfl⟩, hne⟩
          refine ⟨b, List.mem_filter.2 ⟨hb, ?_⟩, rfl⟩
          rw [Bool.eq_false_iff.2 (mt (hf b a).1 hne), Bool.not_false]
      have hsame : ((a :: as).map f).toFinset =
          insert (f a) ((as.filter fun b => !b == a).map f).toFinset := by
        ext k
        rw [List.mem_toFinset, List.map_cons, List.mem_cons, Finset.mem_insert, hothers]
        tauto
      rw [List.eraseDups_cons, List.length_cons, ih _ (Nat.lt_succ_of_le hlength) _ rfl, hsame,
        Finset.card_insert_of_notMem fun h => (hothers.1 h).2 rfl]

theorem size_hashSet_ofList [Hashable α] [EquivBEq α] [LawfulHashable α] (as : List α) :
    (Std.HashSet.ofList as).size = (as.map f).toFinset.card := by
  have hnodup : ((Std.HashSet.ofList as).toList.map f).Nodup := by
    refine List.pairwise_map.2 (Std.HashSet.distinct_toList.imp fun hne heq => ?_)
    rw [(hf _ _).2 heq] at hne
    cases hne
  have hsame : ((Std.HashSet.ofList as).toList.map f).toFinset = (as.map f).toFinset := by
    ext k
    rw [List.mem_toFinset, List.mem_toFinset, mem_map_iff_contains hf, mem_map_iff_contains hf]
    simp only [Std.HashSet.contains_toList, Std.HashSet.contains_ofList]
  rw [← Std.HashSet.length_toList, ← List.length_map f, ← List.toFinset_card_of_nodup hnodup, hsame]

end Keys

namespace Parser

theorem beq_iff (p q : Parser) : (p == q) = true ↔ p.registration = q.registration :=
  beq_iff_eq (a := p.registration)

instance : EquivBEq Parser where
  rfl := (beq_iff _ _).2 rfl
  symm h := (beq_iff _ _).2 ((beq_iff _ _).1 h).symm
  trans h h' := (beq_iff _ _).2 (((beq_iff _ _).1 h).trans ((beq_iff _ _).1 h'))

/-- Equal parsers have equal hashes. -/
instance : LawfulHashable Parser where
  hash_eq p q h := congrArg (fun n : Nat => hash n) ((beq_iff p q).1 h)

end Parser

namespace Session

theorem distinct_eq_card (ps : List Parser) :
    distinct ps = (ps.map Parser.registration).toFinset.card :=
  length_eraseDups Parser.beq_iff ps

/-! ### Questions -/

/-- A question that is answered with parsers. -/
inductive Query where
  | find (place : Place) (name : String)
  | parser (place : Place) (name : String)
  | list (place : Place)
  | listFor (place : Place) (v : Image)

def Query.place : Query → Place
  | find place _ => place
  | parser place _ => place
  | list place => place
  | listFor place _ => place

/-- The parsers that a session answers with. -/
def Query.answers (s : Session) : Query → List Parser
  | find place name => ((s.registryAt place).find? name).toList
  | parser place name => ((s.registryAt place).parser name).toOption.toList
  | list place => (s.registryAt place).list
  | listFor place v => (s.registryAt place).parsersFor v

/-- The name under which an answer was found: the one that was asked for, or else its own. -/
def Query.nameOf (q : Query) (p : Parser) : String :=
  match q with
  | find _ name => name
  | parser _ name => name
  | list _ => p.name
  | listFor _ _ => p.name

variable {s s' : Session} {place other : Place} {name : String} {behavior : Parser.Behavior}
  {p : Parser} {r r' : Registry}

theorem next_setRegistryAt (s : Session) (place : Place) (r : Registry) :
    (s.setRegistryAt place r).next = s.next := by
  cases place <;> rfl

/-- Whatever is answered is a parser of the registry that was asked, under its name. -/
theorem Query.mem_of_answers {q : Query} (hr : (s.registryAt q.place).Reachable)
    (h : p ∈ q.answers s) : p ∈ (s.registryAt q.place).list ∧ p.name = q.nameOf p := by
  cases q with
  | find place name => exact hr.find?_eq_some_iff.1 (Option.mem_toList.1 h)
  | parser place name =>
    refine hr.parser_eq_ok_iff.1 ?_
    rw [answers, Option.mem_toList] at h
    cases hparser : (s.registryAt place).parser name <;> rw [hparser] at h <;> cases h
    exact hparser
  | list place => exact ⟨h, rfl⟩
  | listFor place v => exact ⟨(List.mem_filter.1 h).1, rfl⟩

/-! ### What can be seen -/

/-- What is done with registries, and what else may use up numbers in between. -/
inductive Act where
  | deed (d : Deed)
  | openImage (name : String) (b : ByteArray)
  | ask (q : Query)

/-- A parser that somebody got, and the act from which it should stem. -/
structure Handle where
  parser : Parser
  origin : Option Nat

/-- A session, and what can be seen of it without looking into parsers. -/
structure Provenance where
  session : Session
  /-- Acts are numbered in the order in which they come. -/
  time : Nat
  /-- The acts that registered something, and what they gave. -/
  registered : List (Nat × Parser)
  /-- The act that registered what is found at a place under a name. -/
  origins : Place → String → Option Nat
  handles : List Handle

namespace Provenance

/-- The shared registry has been filled by an act before the first. -/
def initial : Provenance where
  session := .initial
  time := 1
  registered := [(0, Parser.symbolTable Mangling.demangle 0)]
  origins
    | .shared => Function.update (fun _ => none) Parser.symbolsName (some 0)
    | .named _ => fun _ => none
  handles := []

/-- An act is done.  A registration that is refused only takes its time, and a copy takes over what
is known of its source. -/
def step (w : Provenance) : Act → Provenance
  | .deed (.register place name behavior) =>
    match w.session.registerAt place name behavior with
    | .ok (s, p) =>
      { session := s
        time := w.time + 1
        registered := w.registered ++ [(w.time, p)]
        origins := Function.update w.origins place
          (Function.update (w.origins place) name (some w.time))
        handles := w.handles ++ [⟨p, some w.time⟩] }
    | .error _ => { w with time := w.time + 1 }
  | .deed (.copy source target) =>
    { w with
      session := w.session.copyAt source target
      time := w.time + 1
      origins := Function.update w.origins (.named target) (w.origins source) }
  | .deed (.fill target) =>
    { w with
      session := w.session.fillRegistry target
      time := w.time + 1
      registered := w.registered ++
        [(w.time, Parser.symbolTable Mangling.demangle w.session.next)]
      origins := Function.update w.origins (.named target)
        (Function.update (fun _ => none) Parser.symbolsName (some w.time)) }
  | .openImage name b => { w with session := w.session.openImage name b, time := w.time + 1 }
  | .ask q =>
    { w with
      time := w.time + 1
      handles := w.handles ++
        (q.answers w.session).map fun p => ⟨p, w.origins q.place (q.nameOf p)⟩ }

def run (w : Provenance) (acts : List Act) : Provenance :=
  acts.foldl step w

/-! ### What is known of one registry -/

variable {log log' : List (Nat × Parser)} {origins : String → Option Nat} {time next : Nat}

/-- Each parser of a registry was given by the act that is known for its name. -/
structure Traces (log : List (Nat × Parser)) (r : Registry) (origins : String → Option Nat) :
    Prop where
  reachable : r.Reachable
  listed : ∀ p ∈ r.list, ∃ k, origins p.name = some k ∧ (k, p) ∈ log
  known : ∀ name k, origins name = some k → ∃ p, (k, p) ∈ log

theorem traces_empty (log : List (Nat × Parser)) : Traces log .empty fun _ => none where
  reachable := .empty
  listed := fun _ hp => absurd hp List.not_mem_nil
  known := nofun

theorem Traces.mono (h : Traces log r origins) (hlog : log ⊆ log') : Traces log' r origins where
  reachable := h.reachable
  listed p hp :=
    have ⟨k, hk, hmem⟩ := h.listed p hp
    ⟨k, hk, hlog hmem⟩
  known name k hk :=
    have ⟨p, hmem⟩ := h.known name k hk
    ⟨p, hlog hmem⟩

/-- Registering adds one name, which no parser has yet. -/
theorem Traces.register (h : Traces log r origins) {number : Nat}
    (hr : r.register number name behavior = .ok (r', p)) (time : Nat) :
    Traces (log ++ [(time, p)]) r' (Function.update origins name (some time)) := by
  obtain ⟨-, hfree, rfl, rfl⟩ := Registry.register_eq_ok_iff.1 hr
  refine ⟨h.reachable.register hr, ?_, fun other k hk => ?_⟩
  · rw [Registry.list_of_register hr]
    refine List.forall_mem_append.2 ⟨fun q hq => ?_, List.forall_mem_singleton.2 ?_⟩
    · obtain ⟨k, hk, hmem⟩ := h.listed q hq
      have hother := (h.reachable.sound.contains_eq_false_iff name).1 hfree q hq
      exact ⟨k, (Function.update_of_ne hother _ _).trans hk, List.mem_append_left _ hmem⟩
    · exact ⟨time, Function.update_self .., List.mem_append_right _ (.head _)⟩
  · by_cases hother : other = name
    · rw [hother, Function.update_self] at hk
      cases hk
      exact ⟨_, List.mem_append_right _ (.head _)⟩
    · rw [Function.update_of_ne hother] at hk
      obtain ⟨q, hmem⟩ := h.known other k hk
      exact ⟨q, List.mem_append_left _ hmem⟩

theorem Traces.standard (log : List (Nat × Parser)) (time number : Nat) :
    Traces (log ++ [(time, Parser.symbolTable Mangling.demangle number)]) (.standard number)
      (Function.update (fun _ => none) Parser.symbolsName (some time)) :=
  (traces_empty log).register (Registry.register_standard number) time

/-! ### What is known of all registrations -/

/-- Acts and numbers of registrations come in order, so neither comes twice. -/
structure Numbered (log : List (Nat × Parser)) (time next : Nat) : Prop where
  earlier : ∀ entry ∈ log, entry.1 < time
  smaller : ∀ entry ∈ log, entry.2.registration < next
  times : (log.map Prod.fst).Nodup
  numbers : (log.map fun entry => entry.2.registration).Nodup

namespace Numbered

theorem later (h : Numbered log time next) {time' next' : Nat} (htime : time ≤ time')
    (hnext : next ≤ next') : Numbered log time' next' :=
  { h with
    earlier := fun entry he => (h.earlier entry he).trans_le htime
    smaller := fun entry he => (h.smaller entry he).trans_le hnext }

theorem push (h : Numbered log time next) (hp : p.registration = next) :
    Numbered (log ++ [(time, p)]) (time + 1) (next + 1) where
  earlier := by
    have hearlier := (h.later time.le_succ next.le_succ).earlier
    exact List.forall_mem_append.2 ⟨hearlier, List.forall_mem_singleton.2 time.lt_succ_self⟩
  smaller := by
    have hsmaller := (h.later time.le_succ next.le_succ).smaller
    exact List.forall_mem_append.2
      ⟨hsmaller, List.forall_mem_singleton.2 (hp ▸ next.lt_succ_self)⟩
  times := nodup_map_append_singleton h.times h.earlier
  numbers := nodup_map_append_singleton h.numbers fun entry he => hp ▸ h.smaller entry he

/-- One act gave one parser, and no other act gave it. -/
theorem beq_iff (h : Numbered log time next) {j k : Nat} {p q : Parser} (hp : (j, p) ∈ log)
    (hq : (k, q) ∈ log) : ((p == q) = true ↔ j = k) ∧ (j = k → p = q) := by
  have htime (heq : j = k) : (j, p) = (k, q) := List.inj_on_of_nodup_map h.times hp hq heq
  refine ⟨⟨fun hpq => ?_, fun heq => ?_⟩, fun heq => congrArg Prod.snd (htime heq)⟩
  · have hnumber := (Parser.beq_iff p q).1 hpq
    exact congrArg Prod.fst (List.inj_on_of_nodup_map h.numbers hp hq hnumber)
  · exact (Parser.beq_iff p q).2 (congrArg (fun entry => entry.2.registration) (htime heq))

end Numbered

/-! ### What is known at any time -/

/-- A parser was given by the act that is known for it. -/
def Stems (log : List (Nat × Parser)) (h : Handle) : Prop :=
  ∃ k, h.origin = some k ∧ (k, h.parser) ∈ log

theorem Stems.mono {h : Handle} (hstems : Stems log h) (hlog : log ⊆ log') : Stems log' h :=
  have ⟨k, hk, hmem⟩ := hstems
  ⟨k, hk, hlog hmem⟩

/-- Whatever is known of places, of registrations and of what somebody got is right. -/
structure Sound (w : Provenance) : Prop where
  traces : ∀ place, Traces w.registered (w.session.registryAt place) (w.origins place)
  numbered : Numbered w.registered w.time w.session.next
  stems : ∀ h ∈ w.handles, Stems w.registered h

variable {w : Provenance} {a : Act}

theorem sound_initial : initial.Sound where
  traces place := by
    cases place with
    | shared => exact Traces.standard [] 0 0
    | named name => exact traces_empty _
  numbered := by
    have hempty : Numbered [] 0 0 := ⟨nofun, nofun, .nil, .nil⟩
    exact hempty.push (p := Parser.symbolTable Mangling.demangle 0) rfl
  stems := nofun

/-- It is enough to look at the one place where a registry is set. -/
theorem Sound.traces_update (h : w.Sound) {origins : String → Option Nat}
    (hs : s.registryAt = Function.update w.session.registryAt place r)
    (hlog : w.registered ⊆ log) (hr : Traces log r origins) (other : Place) :
    Traces log (s.registryAt other) (Function.update w.origins place origins other) := by
  rw [hs]
  by_cases hother : other = place
  · subst hother
    rw [Function.update_self, Function.update_self]
    exact hr
  · rw [Function.update_of_ne hother, Function.update_of_ne hother]
    exact (h.traces other).mono hlog

/-- What is answered stems from the act that is known for the place and the name. -/
theorem Sound.stems_of_answers (h : w.Sound) (q : Query) :
    ∀ p ∈ q.answers w.session, Stems w.registered ⟨p, w.origins q.place (q.nameOf p)⟩ := by
  intro p hp
  obtain ⟨hlisted, hname⟩ := Query.mem_of_answers (h.traces q.place).reachable hp
  rw [← hname]
  exact (h.traces q.place).listed p hlisted

theorem Sound.step (h : w.Sound) (a : Act) : (w.step a).Sound := by
  have hlater := h.numbered.later w.time.le_succ le_rfl
  have hgrown (p : Parser) : w.registered ⊆ w.registered ++ [(w.time, p)] :=
    List.subset_append_left _ _
  cases a with
  | deed d =>
    cases d with
    | register place name behavior =>
      rw [Provenance.step]
      split
      · next s p hok =>
        obtain ⟨r, hr, rfl⟩ := registerAt_eq_ok_iff.1 hok
        obtain ⟨-, -, rfl, -⟩ := Registry.register_eq_ok_iff.1 hr
        refine ⟨h.traces_update (registryAt_setRegistryAt _ place r) (hgrown _)
          ((h.traces place).register hr w.time), ?_, ?_⟩
        · rw [next_setRegistryAt]
          exact h.numbered.push rfl
        · refine List.forall_mem_append.2 ⟨fun g hg => (h.stems g hg).mono (hgrown _), ?_⟩
          exact List.forall_mem_singleton.2 ⟨w.time, rfl, List.mem_append_right _ (.head _)⟩
      · exact ⟨h.traces, hlater, h.stems⟩
    | copy source target =>
      have hs : (w.session.copyAt source target).registryAt =
          Function.update w.session.registryAt (.named target) (w.session.registryAt source) := by
        rw [copyAt_eq, registryAt_setRegistryAt]
      have hnext : (w.session.copyAt source target).next = w.session.next := by
        rw [copyAt_eq, next_setRegistryAt]
      exact ⟨h.traces_update hs (List.Subset.refl _) (h.traces source), hnext.symm ▸ hlater,
        h.stems⟩
    | fill target =>
      refine ⟨h.traces_update (registryAt_setRegistryAt _ (.named target) _) (hgrown _)
          (Traces.standard _ _ _), h.numbered.push rfl, ?_⟩
      exact fun g hg => (h.stems g hg).mono (hgrown _)
  | openImage name b =>
    exact ⟨h.traces, h.numbered.later w.time.le_succ w.session.next.le_succ, h.stems⟩
  | ask q =>
    refine ⟨h.traces, hlater, List.forall_mem_append.2 ⟨h.stems, ?_⟩⟩
    exact List.forall_mem_map.2 (h.stems_of_answers q)

theorem Sound.run (h : w.Sound) (acts : List Act) : (w.run acts).Sound := by
  induction acts generalizing w with
  | nil => exact h
  | cons a acts ih => exact ih (h.step a)

/-! ### Places without a call in common -/

/-- Nothing that one place has stems from the same act as anything at the other. -/
def Apart (w : Provenance) (place other : Place) : Prop :=
  ∀ name name' k, w.origins place name = some k → w.origins other name' ≠ some k

theorem apart_initial (h : place ≠ other) : initial.Apart place other := by
  cases place with
  | shared =>
    cases other with
    | shared => exact absurd rfl h
    | named => exact fun _ _ _ _ => nofun
  | named => exact fun _ _ _ => nofun

end Provenance

/-- A copy is made into this place. -/
def Act.CopiesInto (place : Place) (a : Act) : Prop :=
  ∃ source target, a = .deed (.copy source target) ∧ place = .named target

/-- Something is registered at this place and nowhere else. -/
def Act.IsAt (place : Place) (a : Act) : Prop :=
  ∃ d, a = .deed d ∧ d.target = place

namespace Provenance

variable {w : Provenance} {a : Act}

theorem origins_step_of_ne {d : Deed} (w : Provenance) (h : d.target ≠ place) :
    (w.step (.deed d)).origins place = w.origins place := by
  cases d with
  | register changed wanted behavior =>
    rw [step]
    split
    · exact Function.update_of_ne h.symm _ _
    · rfl
  | copy source target => exact Function.update_of_ne h.symm _ _
  | fill target => exact Function.update_of_ne h.symm _ _

theorem eq_of_update_eq_some {origins : String → Option Nat} {wanted : String} {time k : Nat}
    (h : Function.update origins wanted (some time) name = some k) :
    origins name = some k ∨ k = time := by
  by_cases hname : name = wanted
  · rw [hname, Function.update_self] at h
    exact .inr (Option.some.inj h).symm
  · rw [Function.update_of_ne hname] at h
    exact .inl h

/-- What was not copied to a place was there before, or is registered there just now. -/
theorem origins_step {k : Nat} (hcopy : ¬ a.CopiesInto place)
    (h : (w.step a).origins place name = some k) :
    w.origins place name = some k ∨ k = w.time ∧ a.IsAt place := by
  cases a with
  | deed d =>
    by_cases hplace : d.target = place
    · subst hplace
      suffices w.origins d.target name = some k ∨ k = w.time from
        this.imp_right fun hk => ⟨hk, d, rfl, rfl⟩
      cases d with
      | register place wanted behavior =>
        rw [step] at h
        split at h
        · dsimp only [Deed.target] at h
          rw [Function.update_self] at h
          exact eq_of_update_eq_some h
        · exact .inl h
      | copy source target => exact absurd ⟨source, target, rfl, rfl⟩ hcopy
      | fill target =>
        dsimp only [step, Deed.target] at h
        rw [Function.update_self] at h
        exact .inr ((eq_of_update_eq_some h).resolve_left nofun)
    · rw [origins_step_of_ne w hplace] at h
      exact .inl h
  | openImage => exact .inl h
  | ask => exact .inl h

theorem Sound.lt_time (h : w.Sound) {k : Nat} (hk : w.origins place name = some k) :
    k < w.time := by
  obtain ⟨p, hmem⟩ := (h.traces place).known name k hk
  exact h.numbered.earlier _ hmem

theorem Apart.step (hw : w.Sound) (h : w.Apart place other) (hne : place ≠ other)
    (hplace : ¬ a.CopiesInto place) (hother : ¬ a.CopiesInto other) :
    (w.step a).Apart place other := by
  intro name name' k hk hk'
  rcases origins_step hplace hk with hk | ⟨rfl, d, rfl, hd⟩ <;>
    rcases origins_step hother hk' with hk' | ⟨hnow, d', hd', hat⟩
  · exact h name name' k hk hk'
  · exact (hw.lt_time hk).ne hnow
  · exact (hw.lt_time hk').ne rfl
  · cases hd'
    exact hne (hd.symm.trans hat)

theorem Apart.run (hw : w.Sound) (h : w.Apart place other) (hne : place ≠ other)
    {acts : List Act} (hplace : ∀ a ∈ acts, ¬ a.CopiesInto place)
    (hother : ∀ a ∈ acts, ¬ a.CopiesInto other) : (w.run acts).Apart place other := by
  induction acts generalizing w with
  | nil => exact h
  | cons a acts ih =>
    obtain ⟨ha, hplace⟩ := List.forall_mem_cons.1 hplace
    obtain ⟨hb, hother⟩ := List.forall_mem_cons.1 hother
    exact ih (hw.step a) (h.step hw hne ha hb) hplace hother

/-! ### Equal parsers -/

theorem Sound.beq_iff_of_stems (h : w.Sound) {g g' : Handle} (hg : Stems w.registered g)
    (hg' : Stems w.registered g') : ((g.parser == g'.parser) = true ↔ g.origin = g'.origin) ∧
      (g.origin = g'.origin → g.parser = g'.parser) := by
  obtain ⟨j, hj, hmem⟩ := hg
  obtain ⟨k, hk, hmem'⟩ := hg'
  rw [hj, hk, Option.some_inj]
  exact h.numbered.beq_iff hmem hmem'

theorem Sound.card_eq (h : w.Sound) {hs : List Handle} (hhs : hs ⊆ w.handles) :
    ((hs.map Handle.parser).map Parser.registration).toFinset.card =
      (hs.map Handle.origin).toFinset.card := by
  rw [List.map_map]
  refine card_toFinset_map_congr fun g hg g' hg' => ?_
  have hbeq := (h.beq_iff_of_stems (h.stems g (hhs hg)) (h.stems g' (hhs hg'))).1
  exact (Parser.beq_iff _ _).symm.trans hbeq

end Provenance

open Provenance in
/-- **Parsers are equal exactly if they stem from the same registration.**  Whatever a session did,
each parser that somebody got was given by the act that is known for its place and its name.  Two of
them are equal exactly if this is the same act, and then they are the same in everything.  So as
many of them are different as there are acts they stem from.  What registries have is compared in
the same way, and registries into which nothing was copied have no parser in common, whatever
names there are. -/
theorem handles_of_run (acts : List Act) :
    let w := Provenance.initial.run acts
    (∀ h ∈ w.handles, ∃ k, h.origin = some k ∧ (k, h.parser) ∈ w.registered) ∧
    (∀ g ∈ w.handles, ∀ h ∈ w.handles, ((g.parser == h.parser) = true ↔ g.origin = h.origin) ∧
      (g.origin = h.origin → g.parser = h.parser)) ∧
    (∀ hs : List Handle, hs ⊆ w.handles →
      distinct (hs.map Handle.parser) = (hs.map Handle.origin).toFinset.card ∧
      (Std.HashSet.ofList (hs.map Handle.parser)).size = (hs.map Handle.origin).toFinset.card) ∧
    (∀ place other, ∀ p ∈ (w.session.registryAt place).list,
      ∀ q ∈ (w.session.registryAt other).list,
        (p == q) = true ↔ w.origins place p.name = w.origins other q.name) ∧
    ∀ place other, place ≠ other → (∀ a ∈ acts, ¬ a.CopiesInto place) →
      (∀ a ∈ acts, ¬ a.CopiesInto other) → ∀ p ∈ (w.session.registryAt place).list,
        ∀ q ∈ (w.session.registryAt other).list, (p == q) = false := by
  intro w
  have hw : w.Sound := sound_initial.run acts
  have hlisted (place : Place) (p : Parser) (hp : p ∈ (w.session.registryAt place).list) :
      Stems w.registered ⟨p, w.origins place p.name⟩ := (hw.traces place).listed p hp
  have hcompared (place other : Place) (p : Parser) (hp : p ∈ (w.session.registryAt place).list)
      (q : Parser) (hq : q ∈ (w.session.registryAt other).list) :
      (p == q) = true ↔ w.origins place p.name = w.origins other q.name :=
    (hw.beq_iff_of_stems (hlisted place p hp) (hlisted other q hq)).1
  refine ⟨hw.stems, fun g hg h hh => hw.beq_iff_of_stems (hw.stems g hg) (hw.stems h hh),
    fun hs hhs => ?_, hcompared, fun place other hne hplace hother p hp q hq => ?_⟩
  · exact ⟨(distinct_eq_card _).trans (hw.card_eq hhs),
      (size_hashSet_ofList Parser.beq_iff _).trans (hw.card_eq hhs)⟩
  · obtain ⟨k, hk, -⟩ := hlisted place p hp
    have hapart := (apart_initial hne).run sound_initial hne hplace hother
    refine Bool.eq_false_iff.2 fun heq => hapart p.name q.name k hk ?_
    exact ((hcompared place other p hp q hq).1 heq).symm.trans hk

namespace Provenance

variable {w : Provenance}

theorem step_register {next : Nat} (hplace : w.session.registryAt place = r)
    (hnext : w.session.next = next) (h : r.register next name behavior = .ok (r', p)) :
    w.step (.deed (.register place name behavior)) =
      { session := { w.session with next := next + 1 }.setRegistryAt place r'
        time := w.time + 1
        registered := w.registered ++ [(w.time, p)]
        origins := Function.update w.origins place
          (Function.update (w.origins place) name (some w.time))
        handles := w.handles ++ [⟨p, some w.time⟩] } := by
  subst hplace hnext
  rw [step, registerAt_eq_ok_iff.2 ⟨r', h, rfl⟩]

theorem step_register_of_error {e : Parser.Error} (hplace : w.session.registryAt place = r)
    (h : r.register w.session.next name behavior = .error e) :
    w.step (.deed (.register place name behavior)) = { w with time := w.time + 1 } := by
  subst hplace
  rw [step, registerAt_of_error h]

end Provenance

/-! ### Two registries alike -/

def dwarfParser (n : Nat) : Parser where
  registration := n
  name := "dwarf"
  behavior := Parser.symbols

def dwarfRegistry (n : Nat) : Registry where
  parsers := KeyedList.empty.push (dwarfParser n)

theorem admissible_dwarf : Registry.Admissible "dwarf" :=
  (Registry.isValidName_iff _).1 (by decide)

theorem register_dwarfParser (n : Nat) :
    Registry.empty.register n "dwarf" Parser.symbols = .ok (dwarfRegistry n, dwarfParser n) :=
  Registry.register_of_free KeyedList.sound_empty ((Registry.isValidName_iff _).2 admissible_dwarf)
    (fun _ hp => absurd hp List.not_mem_nil) n _

theorem list_dwarfRegistry (n : Nat) : (dwarfRegistry n).list = [dwarfParser n] :=
  Registry.list_of_register (register_dwarfParser n)

theorem find?_dwarfRegistry (n : Nat) : (dwarfRegistry n).find? "dwarf" = some (dwarfParser n) := by
  have hsound := (Registry.Reachable.register .empty (register_dwarfParser n)).sound
  have hmem : dwarfParser n ∈ (dwarfRegistry n).list := by
    rw [list_dwarfRegistry]
    exact .head _
  exact (hsound.find?_eq_some_iff "dwarf" _).2 ⟨hmem, rfl⟩

theorem register_dwarfRegistry (n m : Nat) :
    (dwarfRegistry n).register m "dwarf" Parser.symbols = .error (.duplicate "dwarf") := by
  have hindexed := (Registry.Reachable.register .empty (register_dwarfParser n)).indexed
  refine Registry.register_of_taken admissible_dwarf ((hindexed.contains "dwarf").2 ?_) m _
  rw [Registry.names, list_dwarfRegistry]
  exact .head _

/-- One parser under one name, registered in two registries of which the first is copied. -/
def twins : List Act :=
  [.deed (.register (.named "a") "dwarf" Parser.symbols),
    .deed (.register (.named "b") "dwarf" Parser.symbols),
    .deed (.copy (.named "a") "c"),
    .deed (.register (.named "c") "dwarf" Parser.symbols),
    .ask (.find (.named "c") "dwarf"),
    .ask (.list (.named "b"))]

theorem not_copiesInto_of_mem_twins {a : Act} (ha : a ∈ twins) (hname : name ≠ "c") :
    ¬ a.CopiesInto (.named name) := by
  rintro ⟨source, target, rfl, heq⟩
  simp only [twins, List.mem_cons, List.not_mem_nil, or_false, Act.deed.injEq, Deed.copy.injEq,
    reduceCtorEq, false_or] at ha
  exact hname ((Place.named.inj heq).trans ha.2)

/-- The parser is registered twice.  The copy refuses it and finds the first one. -/
theorem exists_run_twins : ∃ w : Provenance, w = Provenance.initial.run twins ∧
    w.session.registryAt (.named "a") = dwarfRegistry 1 ∧
    w.session.registryAt (.named "b") = dwarfRegistry 2 ∧ w.handles =
      [⟨dwarfParser 1, some 1⟩, ⟨dwarfParser 2, some 2⟩, ⟨dwarfParser 1, some 1⟩,
        ⟨dwarfParser 2, some 2⟩] := by
  refine ⟨_, rfl, ?_⟩
  rw [twins, Provenance.run, List.foldl_cons,
    Provenance.step_register ?_ ?_ (register_dwarfParser 1), List.foldl_cons,
    Provenance.step_register ?_ ?_ (register_dwarfParser 2), List.foldl_cons, List.foldl_cons,
    Provenance.step_register_of_error ?_ (register_dwarfRegistry 1 _)]
  · refine ⟨rfl, rfl, ?_⟩
    change _ ++ ((dwarfRegistry 1).find? "dwarf").toList.map _ ++
      (dwarfRegistry 2).list.map _ = _
    rw [find?_dwarfRegistry, list_dwarfRegistry]
    rfl
  all_goals rfl

/-- Of the four parsers that somebody got, two are different, and the two registries have nothing
in common, although they were filled alike. -/
theorem handles_of_run_twins : ∃ w : Provenance, w = Provenance.initial.run twins ∧
    w.handles.map Handle.origin = [some 1, some 2, some 1, some 2] ∧
    distinct (w.handles.map Handle.parser) = 2 ∧
    (w.session.registryAt (.named "a")).names = ["dwarf"] ∧
    (w.session.registryAt (.named "b")).names = ["dwarf"] ∧
    ∀ p ∈ (w.session.registryAt (.named "a")).list,
      ∀ q ∈ (w.session.registryAt (.named "b")).list, (p == q) = false := by
  obtain ⟨w, rfl, ha, hb, hhandles⟩ := exists_run_twins
  obtain ⟨-, -, hcount, -, hapart⟩ := handles_of_run twins
  refine ⟨_, rfl, by rw [hhandles]; rfl, ?_, ?_, ?_, ?_⟩
  · rw [(hcount _ (List.Subset.refl _)).1, hhandles]
    rfl
  · rw [ha, Registry.names, list_dwarfRegistry]
    rfl
  · rw [hb, Registry.names, list_dwarfRegistry]
    rfl
  · exact hapart (.named "a") (.named "b") (by decide)
      (fun a ha => not_copiesInto_of_mem_twins ha (by decide))
      fun a ha => not_copiesInto_of_mem_twins ha (by decide)

end Session

end DebugCatalog
