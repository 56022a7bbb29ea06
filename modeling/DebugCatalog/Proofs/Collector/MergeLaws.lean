import DebugCatalog.Proofs.Collector.Intake

/-!
# Laws of merging

Runs of parsers are merged in different groups: an ingest merges them as they come, and a load
merges them again, from what was stored.  Both are sound because merging is associative
(`merge_merge`), has collectors without entries as neutral elements (`merge_of_isEmpty`,
`Sound.sameEntries_merge`) and takes nothing from a copy (`merge_self`).

It is not commutative, since the first entry of a key wins.  Merging one collector into another
and the other way round answers the same questions alike exactly if the two have the same entry,
from the same source, wherever both have one: `sameLookups_merge_iff`.
-/

namespace DebugCatalog

/-! ### Entries of one list -/

namespace KeyedList

variable {α κ : Type} [BEq κ] [Hashable κ] {key : α → κ} {l m : KeyedList key}

/-- Under a key that both lists have, they have the same entry. -/
def Agree (l m : KeyedList key) : Prop :=
  ∀ a ∈ l.toList, ∀ b ∈ m.toList, key a = key b → a = b

theorem foldl_offer_eq_self {as : List α} (h : ∀ a ∈ as, l.contains (key a) = true) :
    as.foldl offer l = l := by
  induction as with
  | nil => rfl
  | cons a as ih =>
    obtain ⟨ha, has⟩ := List.forall_mem_cons.1 h
    rw [List.foldl_cons, offer, if_pos ha, ih has]

/-- Which list is asked first does not matter exactly if they agree. -/
theorem Sound.or_comm_iff (hl : l.Sound) (hm : m.Sound) :
    (∀ k, (l.find? k).or (m.find? k) = (m.find? k).or (l.find? k)) ↔ l.Agree m := by
  constructor
  · intro h a ha b hb hkey
    have hfirst := (hl.find?_eq_some_iff (key a) a).2 ⟨ha, rfl⟩
    have hsecond := (hm.find?_eq_some_iff (key a) b).2 ⟨hb, hkey.symm⟩
    have hboth := h (key a)
    rw [hfirst, hsecond, Option.some_or, Option.some_or] at hboth
    exact Option.some.inj hboth
  · intro h k
    cases hfirst : l.find? k with
    | none => rw [Option.none_or, Option.or_none]
    | some a =>
      cases hsecond : m.find? k with
      | none => rw [Option.none_or, Option.or_none]
      | some b =>
        obtain ⟨ha, hak⟩ := (hl.find?_eq_some_iff k a).1 hfirst
        obtain ⟨hb, hbk⟩ := (hm.find?_eq_some_iff k b).1 hsecond
        rw [h a ha b hb (hak.trans hbk.symm)]

variable [LawfulBEq κ]

theorem Sound.foldl_offer_self (h : l.Sound) : l.toList.foldl KeyedList.offer l = l :=
  foldl_offer_eq_self fun a ha => (h.contains_iff (key a)).2 ⟨a, ha, rfl⟩

end KeyedList

namespace Collector

variable {a b c e : Collector}

/-! ### Grouping -/

theorem merge_merge (a : Collector) (hb : b.Sound) (hc : c.Sound) :
    ((a.merge b).1.merge c).1 = (a.merge (b.merge c).1).1 := by
  have hbc := hb.merge c
  refine eq_of_lists ?_ ?_ rfl
  · rw [types_merge _ hc, types_merge _ hb, types_merge _ hbc, types_merge _ hc]
    exact (hb.types.foldl_offer_foldl_offer a.types c.types.toList).symm
  · rw [functions_merge _ hc, functions_merge _ hb, functions_merge _ hbc, functions_merge _ hc]
    exact (hb.functions.foldl_offer_foldl_offer a.functions c.functions.toList).symm

theorem merge_of_isEmpty (a : Collector) (h : e.isEmpty = true) : (a.merge e).1 = a := by
  obtain ⟨htypes, hfunctions⟩ := isEmpty_iff.1 h
  rw [merge, htypes, hfunctions]
  rfl

theorem merge_self (ha : a.Sound) : (a.merge a).1 = a := by
  refine eq_of_lists ?_ ?_ rfl
  · rw [types_merge a ha, ha.types.foldl_offer_self]
  · rw [functions_merge a ha, ha.functions.foldl_offer_self]

/-! ### Looking up -/

/-- Whatever is looked up, in both collectors the same is found. -/
structure SameLookups (a b : Collector) : Prop where
  type? : ∀ name, a.type? name = b.type? name
  typeSource : ∀ name, a.typeSource name = b.typeSource name
  functionAt : ∀ address, a.functionAt address = b.functionAt address
  functionSource : ∀ address, a.functionSource address = b.functionSource address

/-- An entry that is there is known if its content and its source are. -/
theorem eq_of_map_eq {ε β : Type} {content : ε → β} {source : ε → Option String} {x y : Option ε}
    (hentry : ∀ s t, x = some s → y = some t → content s = content t → source s = source t → s = t)
    (hcontent : x.map content = y.map content) (hsource : x.bind source = y.bind source) :
    x = y := by
  cases x with
  | none =>
    cases y with
    | none => rfl
    | some t => cases hcontent
  | some s =>
    cases y with
    | none => cases hcontent
    | some t => rw [hentry s t rfl rfl (Option.some.inj hcontent) hsource]

theorem Sound.sameLookups_iff (ha : a.Sound) (hb : b.Sound) :
    a.SameLookups b ↔ (∀ name, a.types.find? name = b.types.find? name) ∧
      ∀ address, a.functions.find? address = b.functions.find? address := by
  constructor
  · intro h
    refine ⟨fun name => ?_, fun address => ?_⟩
    · refine eq_of_map_eq (fun s t hs ht htype hsource => ?_) (h.type? name) (h.typeSource name)
      have hname := ((ha.types.find?_eq_some_iff name s).1 hs).2.trans
        ((hb.types.find?_eq_some_iff name t).1 ht).2.symm
      cases s
      cases t
      cases hname
      cases htype
      cases hsource
      rfl
    · refine eq_of_map_eq (fun s t _ _ hfunction hsource => ?_) (h.functionAt address)
        (h.functionSource address)
      cases s
      cases t
      cases hfunction
      cases hsource
      rfl
  · rintro ⟨htypes, hfunctions⟩
    exact {
      type? := fun name => congrArg (Option.map TypeEntry.type) (htypes name)
      typeSource := fun name => congrArg (Option.bind · TypeEntry.source) (htypes name)
      functionAt := fun address =>
        congrArg (Option.map FunctionEntry.function) (hfunctions address)
      functionSource := fun address =>
        congrArg (Option.bind · FunctionEntry.source) (hfunctions address) }

theorem sameLookups_merge_iff (ha : a.Sound) (hb : b.Sound) :
    (a.merge b).1.SameLookups (b.merge a).1 ↔
      a.types.Agree b.types ∧ a.functions.Agree b.functions := by
  rw [(ha.merge b).sameLookups_iff (hb.merge a), ← ha.types.or_comm_iff hb.types,
    ← ha.functions.or_comm_iff hb.functions]
  refine and_congr (forall_congr' fun name => ?_) (forall_congr' fun address => ?_)
  · have hlookup := isLookup_types name
    rw [hlookup.merge a b ha hb, hlookup.merge b a hb ha]
  · have hlookup := isLookup_functions address
    rw [hlookup.merge a b ha hb, hlookup.merge b a hb ha]

/-- **Merging is associative, has the empty collectors as neutral elements, and is idempotent;
it commutes exactly on collectors that agree.** -/
theorem merge_laws (ha : a.Held) (hb : b.Held) (hc : c.Held) :
    ((a.merge b).1.merge c).1 = (a.merge (b.merge c).1).1 ∧
    (∀ e : Collector, e.Held → e.isEmpty = true →
      (a.merge e).1 = a ∧ (e.merge a).1.SameEntries a) ∧
    (a.merge a).1 = a ∧
    ((a.merge b).1.SameLookups (b.merge a).1 ↔
      a.types.Agree b.types ∧ a.functions.Agree b.functions) := by
  refine ⟨merge_merge a hb.sound hc.sound, ?_, merge_self ha.sound,
    sameLookups_merge_iff ha.sound hb.sound⟩
  intro e he hempty
  exact ⟨merge_of_isEmpty a hempty, he.sound.sameEntries_merge hempty ha.sound⟩

/-- Two collectors that have different types under one name, and a third one. -/
theorem merge_laws_overlaid :
    symbolsHeld.Held ∧ overlaid.Held ∧ (collected "btf" [.type "flag" .void]).Held ∧
    ((symbolsHeld.merge overlaid).1.merge (collected "btf" [.type "flag" .void])).1 =
      (symbolsHeld.merge (overlaid.merge (collected "btf" [.type "flag" .void])).1).1 ∧
    (empty.merge symbolsHeld).1.SameEntries symbolsHeld ∧
    ¬ (symbolsHeld.merge overlaid).1.SameLookups (overlaid.merge symbolsHeld).1 := by
  have hbtf : (collected "btf" [.type "flag" .void]).Held := held_collected _ _
  obtain ⟨hassoc, hneutral, -, hcomm⟩ := merge_laws held_symbolsHeld held_overlaid hbtf
  refine ⟨held_symbolsHeld, held_overlaid, hbtf, hassoc, (hneutral empty .empty rfl).2, ?_⟩
  rw [hcomm]
  rintro ⟨htypes, -⟩
  have hflag : TypeEntry.mk "flag" .bool (some "symbols") ∈ symbolsHeld.types.toList := by
    rw [toList_types_symbolsHeld]
    exact List.mem_singleton.2 rfl
  have hother : TypeEntry.mk "flag" .void (some "dwarf") ∈ overlaid.types.toList := by
    rw [toList_types_overlaid]
    exact List.mem_cons_of_mem _ (List.mem_singleton.2 rfl)
  have hsame := htypes _ hflag _ hother rfl
  cases hsame

end Collector

end DebugCatalog
