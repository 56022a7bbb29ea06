import Mathlib.Data.List.Dedup

/-!
# Last occurrences

`List.dedup` keeps the last occurrence of each element of a list.  Which element with some
property it has first is a matter of ends of the list: it is the one that every other
outlasts (`find?_dedup_eq_some_iff`).

If the list is put together from blocks, each of which has its elements in the order of one
list without repetitions, then it is enough to cut between blocks (`outlasts_flatten_iff`).

The first answer along a list is that of the first element that has one
(`findSome?_eq_bind`), and tells which one it was if answers are signed (`bind_findSome?`).
`bind_findSome?_dedup_iff` puts this together.
-/

namespace DebugCatalog

variable {α : Type} {l : List α} {a b : α}

/-- Every end of the list that has `b` has `a` too. -/
def Outlasts (l : List α) (a b : α) : Prop :=
  ∀ x, x <:+ l → b ∈ x → a ∈ x

theorem Outlasts.mem (h : Outlasts l a b) (hb : b ∈ l) : a ∈ l :=
  h l (List.suffix_refl l) hb

theorem outlasts_cons {c : α} (ha : a ∈ c :: l) : Outlasts (c :: l) a b ↔ Outlasts l a b := by
  constructor
  · intro h x hx
    exact h x (hx.trans (List.suffix_cons c l))
  · intro h x hx hb
    rcases List.suffix_cons_iff.1 hx with rfl | hx
    · exact ha
    · exact h x hx hb

/-- In a list without repetitions it does not matter which elements are left out. -/
theorem Outlasts.of_sublist (h : Outlasts l a b) (hl : l.Nodup) {k : List α} (hk : k.Sublist l)
    (ha : a ∈ k) : Outlasts k a b := by
  rintro x ⟨front, rfl⟩ hb
  rcases List.mem_append.1 ha with hfront | hx
  · obtain ⟨before, after, rfl, hbefore, hafter⟩ := List.append_sublist_iff.1 hk
    have hboth : a ∈ after := h after (List.suffix_append before after) (hafter.subset hb)
    exact absurd hboth (List.disjoint_of_nodup_append hl (hbefore.subset hfront))
  · exact hx

section Dedup

variable [DecidableEq α] {p : α → Bool}

/-- **The first element in the order of last occurrences is the one that all others
outlast.** -/
theorem find?_dedup_eq_some_iff (hb : b ∈ l) (hp : p b = true) :
    l.dedup.find? p = some b ↔ ∀ a ∈ l, p a = true → Outlasts l a b := by
  induction l with
  | nil => exact absurd hb List.not_mem_nil
  | cons c l ih =>
    by_cases hc : c ∈ l
    · have hmem : ∀ a, a ∈ c :: l ↔ a ∈ l := fun a =>
        ⟨fun ha => (List.mem_cons.1 ha).elim (· ▸ hc) id, List.mem_cons_of_mem c⟩
      rw [List.dedup_cons_of_mem hc, ih ((hmem b).1 hb)]
      refine forall_congr' fun a => ?_
      rw [hmem]
      refine forall₂_congr fun ha _ => ?_
      rw [outlasts_cons (List.mem_cons_of_mem c ha)]
    · rw [List.dedup_cons_of_notMem hc, List.find?_cons]
      by_cases hcb : c = b
      · subst hcb
        rw [hp]
        -- Its only occurrence is at the front, so no shorter end has it.
        refine ⟨fun _ a ha _ => (outlasts_cons ha).2 ?_, fun _ => rfl⟩
        exact fun x hx hcx => absurd (hx.subset hcx) hc
      · have hbl : b ∈ l := (List.mem_cons.1 hb).resolve_left (Ne.symm hcb)
        cases hpc : p c with
        | true =>
          refine ⟨fun h => absurd (Option.some.inj h) hcb, fun h => ?_⟩
          have hout := (outlasts_cons (List.mem_cons_self ..)).1 (h c (List.mem_cons_self ..) hpc)
          exact absurd (hout.mem hbl) hc
        | false =>
          refine (ih hbl).trans ⟨fun h a ha hpa => ?_, fun h a ha hpa => ?_⟩
          · rcases List.mem_cons.1 ha with rfl | hal
            · rw [hpc] at hpa
              cases hpa
            · exact (outlasts_cons ha).2 (h a hal hpa)
          · have hac : a ∈ c :: l := List.mem_cons_of_mem c ha
            exact (outlasts_cons hac).1 (h a hac hpa)

end Dedup

/-! ### Blocks -/

/-- The ends are cut between blocks only. -/
def OutlastsIn (blocks : List (List α)) (a b : α) : Prop :=
  ∀ x, x <:+ blocks → b ∈ x.flatten → a ∈ x.flatten

theorem outlasts_flatten_iff {blocks : List (List α)}
    (hblocks : ∀ k ∈ blocks, a ∈ k → Outlasts k a b) :
    Outlasts blocks.flatten a b ↔ OutlastsIn blocks a b := by
  constructor
  · rintro h x ⟨front, rfl⟩ hb
    rw [List.flatten_append] at h
    exact h x.flatten (List.suffix_append ..) hb
  · induction blocks with
    | nil => exact fun _ x hx hb => absurd (hx.subset hb) List.not_mem_nil
    | cons k blocks ih =>
      obtain ⟨hk, hblocks⟩ := List.forall_mem_cons.1 hblocks
      intro h x hx hb
      have hrest : Outlasts blocks.flatten a b :=
        ih hblocks fun y hy => h y (hy.trans (List.suffix_cons k blocks))
      rw [List.flatten_cons] at hx
      rcases List.suffix_or_suffix_of_suffix hx (List.suffix_append k blocks.flatten) with
        hlater | ⟨y, rfl⟩
      · exact hrest x hlater hb
      -- The end begins within the first block.
      · have hy : y <:+ k := List.suffix_append_self_iff.1 hx
        rcases List.mem_append.1 hb with hby | hlater
        · have hall : a ∈ k ++ blocks.flatten := h (k :: blocks) (List.suffix_refl _)
            (List.mem_append_left _ (hy.subset hby))
          rcases List.mem_append.1 hall with hak | hlater
          · exact List.mem_append_left _ (hk hak y hy hby)
          · exact List.mem_append_right _ hlater
        · exact List.mem_append_right _ (hrest.mem hlater)

/-! ### First answers -/

section Answers

variable {β : Type} {answer : α → Option β} {sign : β → Option α}

theorem findSome?_congr {f g : α → Option β} (h : ∀ a ∈ l, f a = g a) :
    l.findSome? f = l.findSome? g := by
  induction l with
  | nil => rfl
  | cons a l ih =>
    obtain ⟨ha, hl⟩ := List.forall_mem_cons.1 h
    rw [List.findSome?_cons, List.findSome?_cons, ha, ih hl]

theorem findSome?_eq_bind (answer : α → Option β) (l : List α) :
    l.findSome? answer = (l.find? fun a => (answer a).isSome).bind answer := by
  induction l with
  | nil => rfl
  | cons a l ih =>
    rw [List.findSome?_cons, List.find?_cons]
    cases h : answer a with
    | none => exact ih
    | some b => exact h.symm

/-- A signed answer tells whose it is. -/
theorem bind_findSome? (hsign : ∀ a b, answer a = some b → sign b = some a) (l : List α) :
    (l.findSome? answer).bind sign = l.find? fun a => (answer a).isSome := by
  rw [findSome?_eq_bind]
  cases hfind : l.find? fun a => (answer a).isSome with
  | none => rfl
  | some a =>
    have hsome := List.find?_some hfind
    obtain ⟨b, hb⟩ := Option.isSome_iff_exists.1 hsome
    rw [Option.bind_some, hb, Option.bind_some, hsign a b hb]

theorem findSome?_eq_of_bind (hsign : ∀ a b, answer a = some b → sign b = some a)
    (h : (l.findSome? answer).bind sign = some a) : l.findSome? answer = answer a := by
  rw [bind_findSome? hsign] at h
  rw [findSome?_eq_bind, h, Option.bind_some]

variable {blocks : List (List α)}

theorem mem_flatten_cons_iff (hblocks : ∀ k ∈ blocks, k.Sublist l) :
    a ∈ (l :: blocks).flatten ↔ a ∈ l := by
  rw [List.flatten_cons, List.mem_append, List.mem_flatten, or_iff_left_iff_imp]
  rintro ⟨k, hk, ha⟩
  exact (hblocks k hk).subset ha

variable [DecidableEq α]

/-- Going on in blocks of the same elements, no answer comes and none is lost. -/
theorem isSome_findSome?_dedup (hblocks : ∀ k ∈ blocks, k.Sublist l) (answer : α → Option β) :
    ((l :: blocks).flatten.dedup.findSome? answer).isSome = (l.findSome? answer).isSome := by
  rw [Bool.eq_iff_iff, List.findSome?_isSome_iff, List.findSome?_isSome_iff]
  simp only [List.mem_dedup, mem_flatten_cons_iff hblocks]

/-- **When the first answer is still that of the same element**: all others that have an
answer must outlast it. -/
theorem bind_findSome?_dedup_iff (hl : l.Nodup) (hblocks : ∀ k ∈ blocks, k.Sublist l)
    (hsign : ∀ a b, answer a = some b → sign b = some a)
    (hb : (l.findSome? answer).bind sign = some b) :
    ((l :: blocks).flatten.dedup.findSome? answer).bind sign = some b ↔
      ∀ a ∈ l, (answer a).isSome → OutlastsIn (l :: blocks) a b := by
  rw [bind_findSome? hsign] at hb ⊢
  have hmem : b ∈ l := List.mem_of_find?_eq_some hb
  have hanswers : (answer b).isSome := List.find?_some (p := fun a => (answer a).isSome) hb
  have hfirst : ∀ a ∈ l, (answer a).isSome → Outlasts l a b := by
    rw [← hl.dedup] at hb
    exact (find?_dedup_eq_some_iff hmem hanswers).1 hb
  rw [find?_dedup_eq_some_iff ((mem_flatten_cons_iff hblocks).2 hmem) hanswers]
  refine forall_congr' fun a => ?_
  rw [mem_flatten_cons_iff hblocks]
  refine forall₂_congr fun ha hanswer => outlasts_flatten_iff fun k hk hak => ?_
  have hsublist : k.Sublist l := by
    rcases List.mem_cons.1 hk with rfl | hk
    · exact List.Sublist.refl k
    · exact hblocks k hk
  exact (hfirst a ha hanswer).of_sublist hl hsublist hak

end Answers

end DebugCatalog
