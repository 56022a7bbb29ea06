import DebugCatalog.Proofs.Collector.FirstWins

/-!
# Adding as offering

What is added to a collector is offered to its two lists: `types_addAll` and
`functions_addAll`.  The entries are those of the additions with a name
(`Addition.typeEntries`, `Addition.functionEntries`), under the credit that the collector gives,
or if they are merged, under the credit that they have already.

Entries that were offered to one list and from there to another might as well have been
offered to the other one at once (`KeyedList.Sound.foldl_offer_foldl_offer`).  A list that took
in entries has of each free key the first one (`KeyedList.toList_foldl_offer_eq`).
-/

namespace DebugCatalog

/-! ### Offering twice -/

namespace KeyedList

variable {α κ : Type} [BEq κ] [Hashable κ] [LawfulBEq κ] {key : α → κ}

theorem contains_offer (l : KeyedList key) (a : α) (k : κ) :
    (l.offer a).contains k = (key a == k || l.contains k) := by
  unfold offer
  split
  · next htaken =>
    by_cases hk : key a = k
    · rw [← hk, htaken, Bool.or_true]
    · rw [beq_eq_false_iff_ne.2 hk, Bool.false_or]
  · exact Std.HashMap.contains_insert

theorem contains_foldl_offer (l : KeyedList key) (as : List α) (k : κ) :
    (as.foldl offer l).contains k = (l.contains k || as.any fun a => key a == k) := by
  induction as generalizing l with
  | nil => rw [List.foldl_nil, List.any_nil, Bool.or_false]
  | cons a as ih =>
    rw [List.foldl_cons, ih, contains_offer, List.any_cons, Bool.or_comm (key a == k), Bool.or_assoc]

/-- Entries are taken in their order, less those whose key is taken, and less those that are
not the first with their key. -/
theorem toList_foldl_offer_eq (l : KeyedList key) (as : List α) :
    (as.foldl offer l).toList = l.toList ++
      (as.filter fun a => !l.contains (key a)).eraseDupsBy fun a b => key a == key b := by
  induction as generalizing l with
  | nil => rw [List.foldl_nil, List.filter_nil, List.eraseDupsBy_nil, List.append_nil]
  | cons a as ih =>
    rw [List.foldl_cons, ih, List.filter_cons]
    cases htaken : l.contains (key a) with
    | true =>
      rw [offer, if_pos htaken]
      rfl
    | false =>
      have hpush : l.offer a = l.push a := by rw [offer, htaken, if_neg Bool.false_ne_true]
      have hrest : as.filter (fun b => !(l.offer a).contains (key b)) =
          (as.filter fun b => !l.contains (key b)).filter fun b => (key b == key a) = false := by
        rw [List.filter_filter]
        refine List.filter_congr fun b _ => ?_
        rw [contains_offer, Bool.not_or, Bool.beq_comm]
        cases key b == key a <;> rfl
      rw [hrest, hpush, toList_push, Bool.not_false, if_pos rfl, List.eraseDupsBy_cons,
        List.append_assoc, List.singleton_append]

/-- An entry that a first list turns away is turned away by a list that took in the first. -/
theorem Sound.foldl_offer_offer {m : KeyedList key} (hm : m.Sound) (l : KeyedList key) (a : α) :
    (m.offer a).toList.foldl KeyedList.offer l = (m.toList.foldl KeyedList.offer l).offer a := by
  cases htaken : m.contains (key a) with
  | true =>
    have hlater : (m.toList.foldl KeyedList.offer l).contains (key a) = true := by
      obtain ⟨b, hb, hkey⟩ := (hm.contains_iff _).1 htaken
      rw [contains_foldl_offer, Bool.or_eq_true, List.any_eq_true]
      exact .inr ⟨b, hb, beq_iff_eq.2 hkey⟩
    rw [KeyedList.offer, if_pos htaken, KeyedList.offer, if_pos hlater]
  | false =>
    have hpush : (m.offer a).toList = m.toList ++ [a] := by
      rw [KeyedList.offer, htaken, if_neg Bool.false_ne_true, toList_push]
    rw [hpush, List.foldl_append, List.foldl_cons, List.foldl_nil]

/-- Entries may be offered to a list by way of another. -/
theorem Sound.foldl_offer_foldl_offer {m : KeyedList key} (hm : m.Sound) (l : KeyedList key)
    (as : List α) :
    (as.foldl KeyedList.offer m).toList.foldl KeyedList.offer l =
      as.foldl KeyedList.offer (m.toList.foldl KeyedList.offer l) := by
  induction as generalizing m with
  | nil => rfl
  | cons a as ih => rw [List.foldl_cons, List.foldl_cons, ih (hm.offer a), hm.foldl_offer_offer]

end KeyedList

/-! ### Additions as entries -/

namespace Addition

/-- The types that are offered, if they have a name. -/
def typeEntries (source : Option String) : Addition → List TypeEntry
  | .type name t => if name = "" then [] else [{ name, type := t, source }]
  | .function _ => []
  | .merge other => other.types.toList.filter fun e => e.name != ""

/-- The functions that are offered, if they have a name. -/
def functionEntries (source : Option String) : Addition → List FunctionEntry
  | .type _ _ => []
  | .function f => if f.isAnonymous then [] else [{ function := f, source }]
  | .merge other => other.functions.toList.filter fun e => !e.function.isAnonymous

end Addition

namespace Collector

theorem eq_of_lists {c d : Collector} (htypes : c.types = d.types)
    (hfunctions : c.functions = d.functions) (hsource : c.source = d.source) : c = d := by
  cases c
  cases d
  cases htypes
  cases hfunctions
  cases hsource
  rfl

theorem source_add (c : Collector) (a : Addition) : (c.add a).source = c.source := by
  cases a with
  | type name type =>
    rw [add, addType]
    split <;> rfl
  | function f =>
    rw [add, addFunction]
    split <;> rfl
  | merge other => rfl

theorem types_add (c : Collector) (a : Addition) :
    (c.add a).types = (a.typeEntries c.source).foldl KeyedList.offer c.types := by
  cases a with
  | type name type =>
    rw [add, Addition.typeEntries]
    split
    · next hname =>
      subst hname
      rfl
    · next hname => exact types_absorbType c (e := { name, type, source := c.source }) hname
  | function f => exact types_addFunction c f
  | merge other => exact types_merge_filter c other

theorem functions_add (c : Collector) (a : Addition) :
    (c.add a).functions = (a.functionEntries c.source).foldl KeyedList.offer c.functions := by
  cases a with
  | type name type => exact functions_addType c name type
  | function f =>
    rw [add, Addition.functionEntries]
    split
    · next hanonymous =>
      rw [addFunction, takesFunction, hanonymous]
      rfl
    · next hnamed =>
      exact functions_absorbFunction c (e := { function := f, source := c.source })
        (Bool.eq_false_iff.2 hnamed)
  | merge other => exact functions_merge_filter c other

theorem types_addAll (c : Collector) (additions : List Addition) :
    (c.addAll additions).types =
      (additions.flatMap (Addition.typeEntries c.source)).foldl KeyedList.offer c.types := by
  induction additions generalizing c with
  | nil => rfl
  | cons a additions ih =>
    rw [List.flatMap_cons, List.foldl_append, ← types_add, ← source_add c a]
    exact ih (c.add a)

theorem functions_addAll (c : Collector) (additions : List Addition) :
    (c.addAll additions).functions =
      (additions.flatMap (Addition.functionEntries c.source)).foldl KeyedList.offer
        c.functions := by
  induction additions generalizing c with
  | nil => rfl
  | cons a additions ih =>
    rw [List.flatMap_cons, List.foldl_append, ← functions_add, ← source_add c a]
    exact ih (c.add a)

end Collector

end DebugCatalog
