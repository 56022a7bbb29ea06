import DebugCatalog.DataType.Basic
import Mathlib.Data.List.Perm.Basic
import Mathlib.Order.Lattice

/-!
# Widths and sizes

`DataType.width` stops at the largest word each time it multiplies for an array or adds for a
member.  `DataType.size?` is the number that is meant: it has no upper end, and it takes the size
of a structure from its members and not from the width it carries along.

* `min_min_mul`, `min_add_min`: to stop at the largest word and then go on counting is to go on
  counting and then stop.
* `toNat_width_foldl_push`: what members do to the width of a structure, one after the other.
* `width_of_assembled`: so for types whose structures were made by adding members, the width is
  the size, stopped once at the end.
-/

namespace DebugCatalog

/-! ### Stopping once -/

/-- A count of zero takes back what was cut off before. -/
theorem min_min_mul (m n top : Nat) : min (min m top * n) top = min (m * n) top := by
  rcases Nat.eq_zero_or_pos n with rfl | hn
  · rw [Nat.mul_zero, Nat.mul_zero]
  rcases Nat.le_total m top with hm | hm
  · rw [Nat.min_eq_left hm]
  · have hcut : top ≤ top * n := Nat.le_mul_of_pos_right top hn
    have hwhole : top * n ≤ m * n := Nat.mul_le_mul_right n hm
    rw [Nat.min_eq_right hm, Nat.min_eq_right hcut, Nat.min_eq_right (hcut.trans hwhole)]

theorem min_add_min (m n top : Nat) : min (m + min n top) top = min (m + n) top := by
  omega

/-! ### Structures -/

namespace Structure

/-- The structure with the given members, added one after the other. -/
def assemble (name : Option String) (ms : List (Member DataType)) : Structure :=
  ms.foldl (fun s m => s.push m.name m.type m.offset) (.empty name)

/-- Where a member ends, as far as words go. -/
def reach (m : Member DataType) : Nat :=
  (Word.addSat m.offset (m.type.width.getD 0)).toNat

theorem toNat_width_push (s : Structure) (m : Member DataType) :
    (s.push m.name m.type m.offset).width.toNat = max s.width.toNat (reach m) := by
  change (if s.width < _ then _ else s.width).toNat = _
  split
  · next hgrows => exact (Nat.max_eq_right (UInt64.le_of_lt hgrows)).symm
  · next hkept => exact (Nat.max_eq_left (UInt64.not_lt.1 hkept)).symm

theorem toNat_width_foldl_push (s : Structure) (ms : List (Member DataType)) :
    (ms.foldl (fun s m => s.push m.name m.type m.offset) s).width.toNat =
      ms.foldl (fun w m => max w (reach m)) s.width.toNat := by
  induction ms generalizing s with
  | nil => rfl
  | cons m ms ih => rw [List.foldl_cons, ih, toNat_width_push, List.foldl_cons]

theorem toNat_width_assemble (name : Option String) (ms : List (Member DataType)) :
    (assemble name ms).width.toNat = ms.foldl (fun w m => max w (reach m)) 0 :=
  toNat_width_foldl_push (.empty name) ms

theorem members_foldl_push (s : Structure) (ms : List (Member DataType)) :
    (ms.foldl (fun s m => s.push m.name m.type m.offset) s).members = s.members ++ ms := by
  induction ms generalizing s with
  | nil => exact (List.append_nil _).symm
  | cons m ms ih => rw [List.foldl_cons, ih, push, List.append_assoc, List.singleton_append]

theorem members_assemble (name : Option String) (ms : List (Member DataType)) :
    (assemble name ms).members = ms :=
  members_foldl_push (.empty name) ms

/-- The order in which members were added does not count. -/
theorem width_assemble_perm (name name' : Option String) {ms ns : List (Member DataType)}
    (h : ms.Perm ns) : (assemble name ms).width = (assemble name' ns).width := by
  apply UInt64.toNat_inj.1
  rw [toNat_width_assemble, toNat_width_assemble]
  exact h.foldl_eq' (fun m _ n _ w => Nat.max_right_comm w (reach m) (reach n)) 0

theorem width_le_width_push (s : Structure) (name : String) (type : DataType)
    (offset : UInt64) : s.width ≤ (s.push name type offset).width := by
  have hpush := toNat_width_push s ⟨name, type, offset⟩
  exact UInt64.le_iff_toNat_le.2 (hpush ▸ Nat.le_max_left _ _)

end Structure

/-! ### Sizes -/

namespace DataType

mutual

/-- Size in bytes as a number without an upper end.  The size of a structure is that of its
members, whatever width it carries along. -/
def size? : DataType → Option Nat
  | .void => none
  | .function _ _ _ => none
  | .named _ => none
  | .bool => some 1
  | .int width _ => some width.toNat
  | .float width => some width.toNat
  | .pointer _ width => some width.toNat
  | .array element count => (size? element).map fun n => n * count.toNat
  | .composite _ _ members => some (extent members)
  | .enumeration _ width _ => some width.toNat

/-- Where the last of the members ends; one without a size ends where it begins. -/
def extent : List (Member DataType) → Nat
  | [] => 0
  | ⟨_, type, offset⟩ :: ms => max (offset.toNat + (size? type).getD 0) (extent ms)

end

/-- The types without a width: void, functions, names, and arrays of such. -/
inductive Unsized : DataType → Prop
  | void : Unsized .void
  | function (result : DataType) (parameters : List DataType) (variadic : Bool) :
      Unsized (.function result parameters variadic)
  | named (name : String) : Unsized (.named name)
  | array {element : DataType} (h : Unsized element) (count : UInt64) :
      Unsized (.array element count)

/-- Neither an array nor a structure. -/
def IsLeaf : DataType → Prop
  | .array _ _ => False
  | .composite _ _ _ => False
  | _ => True

/-- Types made of leaves by arrays and by structures to which members were added one after the
other. -/
inductive Assembled : DataType → Prop
  | leaf {t : DataType} (h : t.IsLeaf) : Assembled t
  | array {element : DataType} (h : Assembled element) (count : UInt64) :
      Assembled (.array element count)
  | composite (name : Option String) {ms : List (Member DataType)}
      (h : ∀ m ∈ ms, Assembled m.type) : Assembled (Structure.assemble name ms).toType

/-- The width is the size, stopped at the largest word. -/
def Clipped (t : DataType) : Prop :=
  t.width.map UInt64.toNat = t.size?.map fun n => min n Word.top

theorem unsized_iff_width_eq_none (t : DataType) : t.width = none ↔ t.Unsized := by
  constructor
  · intro h
    induction t using width.induct with
    | case1 => exact .void
    | case2 result parameters variadic => exact .function result parameters variadic
    | case3 name => exact .named name
    | case8 element count ih =>
      rw [width, Option.map_eq_none_iff] at h
      exact .array (ih h) count
    | _ => cases h
  · intro h
    induction h with
    | void => rfl
    | function => rfl
    | named => rfl
    | array h count ih => rw [width, ih, Option.map_none]

theorem min_top_toNat (w : UInt64) : min w.toNat Word.top = w.toNat :=
  Nat.min_eq_left (Nat.le_of_lt_succ w.toNat_lt)

theorem IsLeaf.clipped {t : DataType} (h : t.IsLeaf) : t.Clipped := by
  have hword (w : UInt64) : some w.toNat = some (min w.toNat Word.top) := by
    rw [min_top_toNat]
  cases t with
  | array => exact h.elim
  | composite => exact h.elim
  | void | function | named | bool => rfl
  | int w | float w | pointer _ w | enumeration _ w => exact hword w

theorem Clipped.array {element : DataType} (h : element.Clipped) (count : UInt64) :
    (DataType.array element count).Clipped := by
  unfold Clipped at h ⊢
  rw [width, size?]
  cases hw : element.width with
  | none =>
    rw [hw] at h
    rw [Option.map_eq_none_iff.1 h.symm]
    rfl
  | some w =>
    rw [hw] at h
    obtain ⟨n, hn, hclip⟩ := Option.map_eq_some_iff.1 h.symm
    rw [hn]
    simp only [Option.map_some, Word.mulSat, Word.toNat_clamp, ← hclip, min_min_mul]

theorem Clipped.reach_eq {m : Member DataType} (h : m.type.Clipped) :
    Structure.reach m = min (m.offset.toNat + m.type.size?.getD 0) Word.top := by
  have hwidth : (m.type.width.getD 0).toNat = min (m.type.size?.getD 0) Word.top := by
    unfold Clipped at h
    cases hw : m.type.width with
    | none =>
      rw [hw] at h
      rw [Option.map_eq_none_iff.1 h.symm]
      rfl
    | some w =>
      rw [hw] at h
      obtain ⟨n, hn, hclip⟩ := Option.map_eq_some_iff.1 h.symm
      rw [hn]
      exact hclip.symm
  rw [Structure.reach, Word.addSat, Word.toNat_clamp, hwidth, min_add_min]

/-- From members that are clipped, a width that is clipped stays so. -/
theorem foldl_reach_eq {ms : List (Member DataType)} (h : ∀ m ∈ ms, m.type.Clipped) (n : Nat) :
    ms.foldl (fun w m => max w (Structure.reach m)) (min n Word.top) =
      min (max n (extent ms)) Word.top := by
  induction ms generalizing n with
  | nil => rw [List.foldl_nil, extent, Nat.max_zero]
  | cons m ms ih =>
    rw [List.foldl_cons, (h m List.mem_cons_self).reach_eq, ← Nat.min_max_distrib_right,
      ih fun m hm => h m (List.mem_cons_of_mem _ hm), extent, Nat.max_assoc]

theorem Assembled.clipped {t : DataType} (h : t.Assembled) : t.Clipped := by
  induction h with
  | leaf h => exact h.clipped
  | array h count ih => exact ih.array count
  | @composite name ms h ih =>
    have hwidth : (Structure.assemble name ms).width.toNat = min (extent ms) Word.top := by
      rw [Structure.toNat_width_assemble]
      simpa using foldl_reach_eq ih 0
    rw [Clipped, Structure.toType, width, size?, Structure.members_assemble, Option.map_some,
      Option.map_some, hwidth]

/-- **Widths are sizes.**  A type whose structures were made by adding members has no width
exactly if it is void, a function, a name or an array of such.  Otherwise its width is its size,
or the largest word if the size is beyond it: it makes no difference that widths stop at the
largest word at each array and each member.

The width of a structure does not depend on the order in which members were added, and no member
makes it less. -/
theorem width_of_assembled {t : DataType} (ht : t.Assembled) :
    (t.width = none ↔ t.Unsized) ∧
    t.width.map UInt64.toNat = t.size?.map (fun n => min n Word.top) ∧
    (∀ (name name' : Option String) (ms ns : List (Member DataType)), ms.Perm ns →
      (Structure.assemble name ms).width = (Structure.assemble name' ns).width) ∧
    ∀ (s : Structure) (name : String) (type : DataType) (offset : UInt64),
      s.width ≤ (s.push name type offset).width :=
  ⟨unsized_iff_width_eq_none t, ht.clipped,
    fun name name' _ _ h => Structure.width_assemble_perm name name' h,
    Structure.width_le_width_push⟩

/-- A structure with a member of `2 ^ 64` bytes, and others that come to nothing. -/
def overgrown : List (Member DataType) :=
  [⟨"gone", .array (.array (.int 0x8000000000000000 true) 2) 0, 8⟩,
   ⟨"far", .array (.float 8) 0x2000000000000000, 16⟩,
   ⟨"opaque", .array .void 3, 24⟩]

theorem assembled_overgrown : ∀ m ∈ overgrown, m.type.Assembled := by
  simp only [overgrown, List.forall_mem_cons, List.not_mem_nil, false_imp_iff, implies_true,
    and_true]
  refine ⟨.array (.array (.leaf ?_) 2) 0, .array (.leaf ?_) _, .array (.leaf ?_) 3⟩
  all_goals exact trivial

/-- The count of zero takes back what was cut off, and the largest member is cut off once. -/
theorem width_of_assembled_overgrown :
    (Structure.assemble none overgrown).toType.Assembled ∧
    (Structure.assemble none overgrown).toType.size? = some (Word.size + 16) ∧
    (Structure.assemble none overgrown).toType.width.map UInt64.toNat = some Word.top := by
  have hassembled := Assembled.composite none assembled_overgrown
  have hsize : (Structure.assemble none overgrown).toType.size? = some (Word.size + 16) := rfl
  refine ⟨hassembled, hsize, ?_⟩
  rw [(width_of_assembled hassembled).2.1, hsize]
  rfl

end DataType

end DebugCatalog
