import Mathlib.Data.List.Forall2

/-!
# Results that may be errors

In `Except ε` a step that follows another is taken apart by `exists_of_bind_eq_ok` if both
succeed, and by `eq_error_of_bind` if one of them fails.  A list of steps succeeds exactly if
all of them do, and `List.Forall₂` says what became of each (`mapM_eq_ok_iff`).  Else it fails
with the error of the first that does (`mapM_eq_error_iff`).
-/

namespace DebugCatalog

variable {α β γ ε : Type}

theorem exists_of_bind_eq_ok {x : Except ε α} {f : α → Except ε β} {y : β}
    (h : (x >>= f) = .ok y) : ∃ a, x = .ok a ∧ f a = .ok y := by
  cases x with
  | error e => cases h
  | ok a => exact ⟨a, rfl, h⟩

theorem eq_error_of_bind {x : Except ε α} {f : α → Except ε β} {e : ε}
    (h : (x >>= f) = .error e) : x = .error e ∨ ∃ a, x = .ok a ∧ f a = .error e := by
  cases x with
  | error e' =>
    cases h
    exact .inl rfl
  | ok a => exact .inr ⟨a, rfl, h⟩

theorem exists_of_map_eq_ok {x : Except ε α} {f : α → β} {y : β} (h : f <$> x = .ok y) :
    ∃ a, x = .ok a ∧ y = f a := by
  cases x with
  | error e => cases h
  | ok a => exact ⟨a, rfl, (Except.ok.inj h).symm⟩

/-! ### Pairs of lists -/

section Pairs

variable {R : α → γ → Prop} {xs : List α} {zs : List γ}

theorem exists_of_forall₂ (h : List.Forall₂ R xs zs) {x : α} (hx : x ∈ xs) : ∃ z ∈ zs, R x z := by
  induction h with
  | nil => exact absurd hx List.not_mem_nil
  | @cons y z xs zs hR _ ih =>
    rcases List.mem_cons.1 hx with rfl | hx
    · exact ⟨z, List.mem_cons_self .., hR⟩
    · obtain ⟨w, hw, hRw⟩ := ih hx
      exact ⟨w, List.mem_cons_of_mem _ hw, hRw⟩

/-- Two lists that are paired with the same list are paired with each other. -/
theorem forall₂_comp {S : γ → β → Prop} {T : α → β → Prop}
    (hT : ∀ x z y, R x z → S z y → T x y) (h : List.Forall₂ R xs zs) {ys : List β}
    (hys : List.Forall₂ S zs ys) : List.Forall₂ T xs ys := by
  induction h generalizing ys with
  | nil =>
    cases hys
    exact .nil
  | cons hR _ ih =>
    cases hys with
    | cons hS hrest => exact .cons (hT _ _ _ hR hS) (ih hrest)

theorem forall₂_getLast? (h : List.Forall₂ R xs zs) :
    List.Forall₂ R xs.getLast?.toList zs.getLast?.toList := by
  have hreverse := List.forall₂_reverse_iff.2 h
  rw [← xs.head?_reverse, ← zs.head?_reverse]
  generalize xs.reverse = xs' at hreverse ⊢
  generalize zs.reverse = zs' at hreverse ⊢
  cases hreverse with
  | nil => exact .nil
  | cons hx _ => exact .cons hx .nil

end Pairs

/-! ### Lists of steps -/

section Steps

variable {f : α → Except ε β} {xs : List α} {zs : List γ}

theorem mapM_eq_ok {g : α → β} (h : ∀ x ∈ xs, f x = .ok (g x)) : xs.mapM f = .ok (xs.map g) := by
  induction xs with
  | nil => rfl
  | cons x xs ih =>
    rw [List.mapM_cons, h x (List.mem_cons_self ..),
      ih fun y hy => h y (List.mem_cons_of_mem _ hy)]
    rfl

theorem forall₂_of_mapM {ys : List β} (h : xs.mapM f = .ok ys) :
    List.Forall₂ (fun x y => f x = .ok y) xs ys := by
  induction xs generalizing ys with
  | nil =>
    cases h
    exact .nil
  | cons x xs ih =>
    rw [List.mapM_cons] at h
    obtain ⟨y, hy, h⟩ := exists_of_bind_eq_ok h
    obtain ⟨rest, hrest, h⟩ := exists_of_bind_eq_ok h
    cases h
    exact .cons hy (ih hrest)

/-- If all results are there, so is each. -/
theorem exists_ok_of_mapM {ys : List β} (h : xs.mapM f = .ok ys) : ∀ x ∈ xs, ∃ y, f x = .ok y := by
  intro x hx
  obtain ⟨y, -, hy⟩ := exists_of_forall₂ (forall₂_of_mapM h) hx
  exact ⟨y, hy⟩

/-- A list of results fails with the first that does. -/
theorem mapM_eq_error_iff {e : ε} : xs.mapM f = .error e ↔ ∃ before x after,
    xs = before ++ x :: after ∧ (∀ y ∈ before, ∃ b, f y = .ok b) ∧ f x = .error e := by
  constructor
  · intro h
    induction xs with
    | nil => cases h
    | cons x xs ih =>
      rw [List.mapM_cons] at h
      rcases eq_error_of_bind h with hx | ⟨y, hy, hrest⟩
      · exact ⟨[], x, xs, rfl, nofun, hx⟩
      · rcases eq_error_of_bind hrest with hxs | ⟨ys, -, hdone⟩
        · obtain ⟨before, z, after, rfl, hbefore, hz⟩ := ih hxs
          exact ⟨x :: before, z, after, rfl, List.forall_mem_cons.2 ⟨⟨y, hy⟩, hbefore⟩, hz⟩
        · cases hdone
  · rintro ⟨before, x, after, rfl, hbefore, hx⟩
    induction before with
    | nil =>
      rw [List.nil_append, List.mapM_cons, hx]
      rfl
    | cons y before ih =>
      obtain ⟨⟨b, hy⟩, hbefore⟩ := List.forall_mem_cons.1 hbefore
      rw [List.cons_append, List.mapM_cons, hy]
      change ((before ++ x :: after).mapM f >>= _) = _
      rw [ih hbefore]
      rfl

theorem exists_error_of_mapM {e : ε} (h : xs.mapM f = .error e) : ∃ x ∈ xs, f x = .error e := by
  obtain ⟨before, x, after, rfl, -, hx⟩ := mapM_eq_error_iff.1 h
  exact ⟨x, List.mem_append_right _ (List.mem_cons_self ..), hx⟩

theorem exists_mapM_of_forall₂ {R : β → γ → Prop}
    (h : List.Forall₂ (fun x z => ∃ y, f x = .ok y ∧ R y z) xs zs) :
    ∃ ys, xs.mapM f = .ok ys ∧ List.Forall₂ R ys zs := by
  induction h with
  | nil => exact ⟨[], rfl, .nil⟩
  | cons hx _ ih =>
    obtain ⟨y, hy, hR⟩ := hx
    obtain ⟨ys, hys, hrest⟩ := ih
    refine ⟨y :: ys, ?_, .cons hR hrest⟩
    rw [List.mapM_cons, hy, hys]
    rfl

theorem mapM_eq_ok_iff {ys : List β} :
    xs.mapM f = .ok ys ↔ List.Forall₂ (fun x y => f x = .ok y) xs ys := by
  refine ⟨forall₂_of_mapM, fun h => ?_⟩
  obtain ⟨zs, hzs, heq⟩ :=
    exists_mapM_of_forall₂ (R := Eq) (h.imp fun x y hy => ⟨y, hy, rfl⟩)
  rw [List.forall₂_eq_eq_eq] at heq
  rw [hzs, heq]

/-- All results are there exactly if each is. -/
theorem exists_mapM_iff_of_forall₂ {P : γ → Prop}
    (h : List.Forall₂ (fun x z => (∃ y, f x = .ok y) ↔ P z) xs zs) :
    (∃ ys, xs.mapM f = .ok ys) ↔ ∀ z ∈ zs, P z := by
  induction h with
  | nil => exact ⟨fun _ z hz => absurd hz List.not_mem_nil, fun _ => ⟨[], rfl⟩⟩
  | cons hx _ ih =>
    rw [List.forall_mem_cons, ← hx, ← ih]
    constructor
    · rintro ⟨ys, hys⟩
      rw [List.mapM_cons] at hys
      obtain ⟨y, hy, hys⟩ := exists_of_bind_eq_ok hys
      obtain ⟨rest, hrest, -⟩ := exists_of_bind_eq_ok hys
      exact ⟨⟨y, hy⟩, rest, hrest⟩
    · rintro ⟨⟨y, hy⟩, ys, hys⟩
      refine ⟨y :: ys, ?_⟩
      rw [List.mapM_cons, hy, hys]
      rfl

end Steps

end DebugCatalog
