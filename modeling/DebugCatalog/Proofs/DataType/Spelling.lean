import DebugCatalog.DataType.Spelling
import Mathlib.Data.List.Basic
import Mathlib.Data.List.Induction

/-!
# Spellings are unambiguous

A type is listed by its spelling alone.  This file shows that the spelling of a type made of
numbers, pointers, arrays and functions tells all of it but how wide its pointers are.

Spellings grow to the right: what is done to a type is written behind it.  So they are taken apart
from the right.  Read backwards, a spelling begins with what was done last, and what follows it is
the spelling of the type it was done to.

* `Plain.forms`: the five forms that spellings have.  A pointer to a function has one of its own.
* `Readable t`: the spelling of `t`, read backwards and with other text behind it, is that of no
  other type.  There is one lemma for each form; parameters are taken off from the last one on.
* `display_eq_iff`: so two such types are spelled alike exactly if they are the same but for the
  widths of pointers.
-/

namespace DebugCatalog

/-! ### Numerals -/

theorem Text.decimal_injective : Function.Injective Text.decimal := by
  intro m n h
  have hread : Nat.ofDigitChars 10 (Text.decimal m) 0 = m := Nat.ofDigitChars_ten_toDigits
  rw [h] at hread
  exact hread.symm.trans Nat.ofDigitChars_ten_toDigits

theorem Text.isDigit_of_mem_decimal {c : Char} {n : Nat} (h : c ∈ Text.decimal n) :
    c.isDigit = true :=
  Nat.isDigit_of_mem_toDigits (by decide) (by decide) h

namespace DataType

variable {t u : DataType} {ps qs : List DataType}

/-! ### Words -/

/-- The types that are spelled by one word. -/
def IsWord : DataType → Prop
  | .void | .bool | .int _ _ | .float _ => True
  | _ => False

/-- How a number with a width ends: with its bits, or with its bytes if there are too many bits. -/
def measure (unit : List Char) (width : UInt64) : List Char :=
  match bits? width with
  | some bits => Text.decimal bits ++ unit
  | none => '<' :: (Text.decimal width.toNat ++ " bytes>".toList)

theorem intSpelling_eq (width : UInt64) (signed : Bool) : intSpelling width signed =
    if width = 1 ∧ signed = true then "char".toList
    else (if signed then [] else ['u']) ++ ("int".toList ++ measure "_t".toList width) := by
  unfold intSpelling measure
  split
  · rfl
  · cases bits? width <;> rfl

theorem floatSpelling_eq (width : UInt64) : floatSpelling width =
    if width = 4 then "float".toList
    else if width = 8 then "double".toList
    else if width = 10 then "long double".toList
    else "float".toList ++ measure [] width := by
  unfold floatSpelling measure
  cases bits? width with
  | none => rfl
  | some bits => simp only [List.append_nil]

theorem eq_of_bits?_eq {v w : UInt64} {bits : Nat} (hv : bits? v = some bits)
    (hw : bits? w = some bits) : v = w := by
  unfold bits? at hv hw
  split at hv
  · split at hw
    · cases hv
      apply UInt64.toNat_inj.1
      have := Option.some.inj hw
      omega
    · cases hw
  · cases hv

theorem measure_ne_nil {unit : List Char} {w : UInt64} : measure unit w ≠ [] := by
  unfold measure
  split
  · exact List.append_ne_nil_of_left_ne_nil Nat.toDigits_ne_nil unit
  · exact List.cons_ne_nil _ _

/-- A digit is no bracket, so bits are not taken for bytes. -/
theorem measure_injective (unit : List Char) : Function.Injective (measure unit) := by
  have hmixed (m n : Nat) : Text.decimal m ++ unit ≠
      '<' :: (Text.decimal n ++ " bytes>".toList) := by
    intro h
    rcases List.append_eq_cons_iff.1 h with ⟨hnil, -⟩ | ⟨ds, hds, -⟩
    · exact Nat.toDigits_ne_nil hnil
    · have hdigit : '<'.isDigit = true := Text.isDigit_of_mem_decimal (hds ▸ List.mem_cons_self)
      exact absurd hdigit (by decide)
  intro v w h
  unfold measure at h
  split at h
  · next m hv =>
    split at h
    · next n hw =>
      obtain rfl := Text.decimal_injective (List.append_cancel_right h)
      exact eq_of_bits?_eq hv hw
    · exact absurd h (hmixed _ _)
  · split at h
    · exact absurd h.symm (hmixed _ _)
    · exact UInt64.toNat_inj.1
        (Text.decimal_injective (List.append_cancel_right (List.cons.inj h).2))

theorem intSpelling_forms (w : UInt64) (signed : Bool) :
    (w = 1 ∧ signed = true ∧ intSpelling w signed = ['c', 'h', 'a', 'r']) ∨
    (signed = true ∧ intSpelling w signed = 'i' :: 'n' :: 't' :: measure ['_', 't'] w) ∨
    (signed = false ∧ intSpelling w signed = 'u' :: 'i' :: 'n' :: 't' :: measure ['_', 't'] w) := by
  rw [intSpelling_eq]
  split
  · next hchar => exact .inl ⟨hchar.1, hchar.2, rfl⟩
  · cases signed with
    | true => exact .inr (.inl ⟨rfl, rfl⟩)
    | false => exact .inr (.inr ⟨rfl, rfl⟩)

theorem floatSpelling_forms (w : UInt64) :
    (w = 4 ∧ floatSpelling w = ['f', 'l', 'o', 'a', 't']) ∨
    (w = 8 ∧ floatSpelling w = ['d', 'o', 'u', 'b', 'l', 'e']) ∨
    (w = 10 ∧ floatSpelling w = ['l', 'o', 'n', 'g', ' ', 'd', 'o', 'u', 'b', 'l', 'e']) ∨
    floatSpelling w = 'f' :: 'l' :: 'o' :: 'a' :: 't' :: measure [] w := by
  rw [floatSpelling_eq]
  split
  · next h4 => exact .inl ⟨h4, rfl⟩
  · split
    · next h8 => exact .inr (.inl ⟨h8, rfl⟩)
    · split
      · next h10 => exact .inr (.inr (.inl ⟨h10, rfl⟩))
      · exact .inr (.inr (.inr rfl))

theorem intSpelling_injective {v w : UInt64} {a b : Bool} (h : intSpelling v a = intSpelling w b) :
    v = w ∧ a = b := by
  have hmeasure := (measure_injective ['_', 't']).eq_iff (a := v) (b := w)
  have hv := intSpelling_forms v a
  have hw := intSpelling_forms w b
  grind

theorem floatSpelling_injective : Function.Injective floatSpelling := by
  intro v w h
  have hmeasure := (measure_injective []).eq_iff (a := v) (b := w)
  have hv := floatSpelling_forms v
  have hw := floatSpelling_forms w
  grind [measure_ne_nil]

/-- The characters of words. -/
def isWordChar (c : Char) : Bool :=
  c.isAlphanum || c == '_' || c == '<' || c == '>' || c == ' '

theorem isWordChar_of_isDigit {c : Char} (h : c.isDigit = true) : isWordChar c = true := by
  simp [isWordChar, Char.isAlphanum, h]

theorem all_isWordChar_decimal (n : Nat) : (Text.decimal n).all isWordChar = true :=
  List.all_eq_true.2 fun _ hc => isWordChar_of_isDigit (Text.isDigit_of_mem_decimal hc)

theorem all_isWordChar_measure {unit : List Char} (hunit : unit.all isWordChar = true)
    (w : UInt64) : (measure unit w).all isWordChar = true := by
  unfold measure
  split
  · rw [List.all_append, all_isWordChar_decimal, hunit]
    rfl
  · rw [List.all_cons, List.all_append, all_isWordChar_decimal]
    rfl

/-- The letters that a word may begin with. -/
def letters : DataType → List Char
  | .void => ['v']
  | .bool => ['b']
  | .int _ _ => ['c', 'i', 'u']
  | .float _ => ['f', 'd', 'l']
  | _ => []

theorem blank_notMem_letters (t : DataType) : ' ' ∉ letters t := by
  cases t <;> simp [letters]

theorem IsWord.spelling_eq_cons (h : t.IsWord) :
    ∃ c w, t.spelling = c :: w ∧ c ∈ letters t ∧ (c :: w).all isWordChar = true := by
  cases t with
  | void => exact ⟨_, _, rfl, List.mem_cons_self, by decide⟩
  | bool => exact ⟨_, _, rfl, List.mem_cons_self, by decide⟩
  | int w signed =>
    have hmeasure : (measure ['_', 't'] w).all isWordChar = true :=
      all_isWordChar_measure (by decide) w
    rcases intSpelling_forms w signed with ⟨-, -, hw⟩ | ⟨-, hw⟩ | ⟨-, hw⟩
    all_goals
      refine ⟨_, _, hw, by simp [letters], ?_⟩
      simp only [List.all_cons, hmeasure]
      rfl
  | float w =>
    have hmeasure : (measure [] w).all isWordChar = true := all_isWordChar_measure (by decide) w
    rcases floatSpelling_forms w with ⟨-, hw⟩ | ⟨-, hw⟩ | ⟨-, hw⟩ | hw
    all_goals
      refine ⟨_, _, hw, by simp [letters], ?_⟩
      simp only [List.all_cons, hmeasure]
      rfl
  | _ => exact h.elim

/-- The first letter tells words of different kinds apart. -/
theorem IsWord.eq_of_spelling_eq (ht : t.IsWord) (hu : u.IsWord) (h : t.spelling = u.spelling) :
    t = u := by
  obtain ⟨c, w, htext, hc, -⟩ := ht.spelling_eq_cons
  obtain ⟨d, x, hutext, hd, -⟩ := hu.spelling_eq_cons
  obtain rfl : c = d := (List.cons.inj (htext.symm.trans (h.trans hutext))).1
  cases t with
  | void | bool => cases u <;> grind [letters]
  | int v a =>
    cases u with
    | int w b =>
      obtain ⟨rfl, rfl⟩ := intSpelling_injective h
      rfl
    | _ => grind [letters]
  | float v =>
    cases u with
    | float w => exact congrArg float (floatSpelling_injective h)
    | _ => grind [letters]
  | _ => exact ht.elim

/-! ### The forms of spellings -/

/-- Made of void, truth values, numbers, pointers, arrays and functions alone. -/
inductive Plain : DataType → Prop
  | void : Plain .void
  | bool : Plain .bool
  | int (width : UInt64) (signed : Bool) : Plain (.int width signed)
  | float (width : UInt64) : Plain (.float width)
  | pointer {target : DataType} (h : Plain target) (width : UInt64) :
      Plain (.pointer target width)
  | array {element : DataType} (h : Plain element) (count : UInt64) :
      Plain (.array element count)
  | function {result : DataType} {parameters : List DataType} (h : Plain result)
      (hs : ∀ p ∈ parameters, Plain p) (variadic : Bool) :
      Plain (.function result parameters variadic)

def IsFunction : DataType → Prop
  | .function _ _ _ => True
  | _ => False

theorem IsWord.not_isFunction (h : t.IsWord) : ¬t.IsFunction := by
  cases t with
  | function => exact h.elim
  | _ => exact id

/-- What holds of types of each form holds of all.  A pointer to a function is not spelled like
other pointers, and rests on the parts of the function. -/
theorem Plain.forms {motive : DataType → Prop}
    (word : ∀ t, t.IsWord → motive t)
    (pointer : ∀ t w, ¬t.IsFunction → motive t → motive (.pointer t w))
    (array : ∀ t n, motive t → motive (.array t n))
    (function : ∀ r ps v, motive r → (∀ p ∈ ps, p.Plain) → (∀ p ∈ ps, motive p) →
      motive (.function r ps v))
    (functionPointer : ∀ r ps v w, motive r → (∀ p ∈ ps, p.Plain) → (∀ p ∈ ps, motive p) →
      motive (.pointer (.function r ps v) w))
    (h : t.Plain) : motive t := by
  -- Beside each type the pointers to it, as the induction goes past the function itself.
  have hword (t : DataType) (ht : t.IsWord) : motive t ∧ ∀ w, motive (.pointer t w) :=
    ⟨word t ht, fun w => pointer t w ht.not_isFunction (word t ht)⟩
  have hboth : motive t ∧ ∀ w, motive (.pointer t w) := by
    induction h with
    | void | bool | int | float => exact hword _ trivial
    | pointer h w ih => exact ⟨ih.2 w, fun w' => pointer _ w' id (ih.2 w)⟩
    | array h n ih =>
      have harray := array _ n ih.1
      exact ⟨harray, fun w => pointer _ w id harray⟩
    | function h hs v ih ihs =>
      have hparameters := fun p hp => (ihs p hp).1
      exact ⟨function _ _ v ih.1 hs hparameters,
        fun w => functionPointer _ _ v w ih.1 hs hparameters⟩
  exact hboth.1

/-- The spelling from its end on. -/
def backwards (t : DataType) : List Char :=
  t.spelling.reverse

/-- What is written between the brackets of a function, from its end on. -/
def argumentsBackwards (ps : List DataType) (variadic : Bool) : List Char :=
  (spellings ps ++ variadicMark variadic ps.isEmpty).reverse

theorem backwards_pointer (h : ¬t.IsFunction) (w : UInt64) :
    backwards (.pointer t w) = '*' :: backwards t := by
  cases t with
  | function => exact absurd trivial h
  | _ => simp [backwards, spelling]

theorem backwards_array (n : UInt64) : backwards (.array t n) =
    ']' :: ((Text.decimal n.toNat).reverse ++ '[' :: backwards t) := by
  simp [backwards, spelling]

theorem backwards_function (v : Bool) : backwards (.function t ps v) =
    ')' :: (argumentsBackwards ps v ++ '(' :: ' ' :: backwards t) := by
  simp [backwards, argumentsBackwards, spelling]

theorem backwards_functionPointer (v : Bool) (w : UInt64) :
    backwards (.pointer (.function t ps v) w) =
      ')' :: (argumentsBackwards ps v ++ '(' :: ')' :: '*' :: '(' :: ' ' :: backwards t) := by
  simp [backwards, argumentsBackwards, spelling]

theorem spellings_cons (h : ps ≠ []) :
    spellings (t :: ps) = t.spelling ++ ',' :: ' ' :: spellings ps := by
  cases ps with
  | nil => exact absurd rfl h
  | cons => simp only [spellings]

/-- Parameters in front of another one, or of the mark for further arguments, from the last one
on. -/
def precedingBackwards (ps : List DataType) : List Char :=
  ps.reverse.flatMap fun p => ' ' :: ',' :: backwards p

theorem precedingBackwards_concat (ps : List DataType) (p : DataType) :
    precedingBackwards (ps ++ [p]) = ' ' :: ',' :: (backwards p ++ precedingBackwards ps) := by
  simp [precedingBackwards]

theorem reverse_spellings_concat (ps : List DataType) (p : DataType) :
    (spellings (ps ++ [p])).reverse = backwards p ++ precedingBackwards ps := by
  induction ps with
  | nil => simp [spellings, backwards, precedingBackwards]
  | cons q ps ih =>
    rw [List.cons_append, spellings_cons (by simp), List.reverse_append, List.reverse_cons,
      List.reverse_cons, ih]
    simp [precedingBackwards, backwards]

theorem argumentsBackwards_variadic (ps : List DataType) :
    argumentsBackwards ps true = '.' :: '.' :: '.' :: precedingBackwards ps := by
  rcases List.eq_nil_or_concat ps with rfl | ⟨front, p, rfl⟩
  · rfl
  · rw [argumentsBackwards, List.reverse_append, List.concat_eq_append, reverse_spellings_concat,
      precedingBackwards_concat]
    simp [variadicMark]

theorem argumentsBackwards_concat (ps : List DataType) (p : DataType) :
    argumentsBackwards (ps ++ [p]) false = backwards p ++ precedingBackwards ps := by
  rw [argumentsBackwards, List.reverse_append, reverse_spellings_concat]
  simp [variadicMark]

/-! ### Reading backwards -/

mutual

/-- The type with all its pointers of the same width.  What structures hold is left as it is. -/
def withoutPointerWidths : DataType → DataType
  | .pointer target _ => .pointer (withoutPointerWidths target) 0
  | .array element count => .array (withoutPointerWidths element) count
  | .function result parameters variadic =>
    .function (withoutPointerWidths result) (listWithoutPointerWidths parameters) variadic
  | t => t

def listWithoutPointerWidths : List DataType → List DataType
  | [] => []
  | t :: ts => withoutPointerWidths t :: listWithoutPointerWidths ts

end

theorem listWithoutPointerWidths_eq_map (ts : List DataType) :
    listWithoutPointerWidths ts = ts.map withoutPointerWidths := by
  induction ts with
  | nil => rfl
  | cons t ts ih => rw [listWithoutPointerWidths, ih, List.map_cons]

/-- What may stand in front of a type in a spelling, read backwards: nothing, an opening bracket, or
the comma behind another parameter. -/
def Delimits (r : List Char) : Prop :=
  r = [] ∨ (∃ r', r = '(' :: r') ∨ ∃ r', r = ' ' :: ',' :: r'

/-- The spelling of the type, and where it begins, can be told from what is written up to its
end. -/
def Readable (t : DataType) : Prop :=
  ∀ u : DataType, u.Plain → ∀ r r', Delimits r → Delimits r' →
    backwards t ++ r = backwards u ++ r' → t.withoutPointerWidths = u.withoutPointerWidths ∧ r = r'

/-! ### What a spelling ends with -/

theorem IsWord.backwards_eq_cons (h : t.IsWord) :
    ∃ c w, backwards t = c :: w ∧ isWordChar c = true := by
  obtain ⟨c, w, htext, -, hchars⟩ := h.spelling_eq_cons
  cases hback : backwards t with
  | nil => simp [backwards, htext] at hback
  | cons d x =>
    refine ⟨d, x, rfl, List.all_eq_true.1 hchars d ?_⟩
    rw [← htext, ← List.mem_reverse, ← backwards, hback]
    exact List.mem_cons_self

/-- The last character of a spelling tells its form. -/
theorem Plain.form_of_backwards {c : Char} {x r : List Char} (hu : u.Plain)
    (h : c :: x = backwards u ++ r) :
    (isWordChar c = true ∧ u.IsWord) ∨
    (c = '*' ∧ ∃ t w, u = .pointer t w ∧ ¬t.IsFunction ∧ t.Plain) ∨
    (c = ']' ∧ ∃ t n, u = .array t n ∧ t.Plain) ∨
    (c = ')' ∧ ∃ t ps v, (u = .function t ps v ∨ ∃ w, u = .pointer (.function t ps v) w) ∧
      t.Plain ∧ ∀ p ∈ ps, p.Plain) := by
  have hpointer (t : DataType) (w : UInt64) (ht : t.Plain) (hf : ¬t.IsFunction)
      (h : c :: x = backwards (.pointer t w) ++ r) :
      c = '*' ∧ ∃ t' w', DataType.pointer t w = .pointer t' w' ∧ ¬t'.IsFunction ∧ t'.Plain := by
    rw [backwards_pointer hf] at h
    exact ⟨(List.cons.inj h).1, t, w, rfl, hf, ht⟩
  have hword (t : DataType) (ht : t.IsWord) (h : c :: x = backwards t ++ r) :
      isWordChar c = true ∧ t.IsWord := by
    obtain ⟨d, w, hback, hd⟩ := ht.backwards_eq_cons
    rw [hback] at h
    exact ⟨(List.cons.inj h).1 ▸ hd, ht⟩
  cases hu with
  | void | bool | int | float => exact .inl (hword _ trivial h)
  | array ht n =>
    rw [backwards_array] at h
    exact .inr (.inr (.inl ⟨(List.cons.inj h).1, _, n, rfl, ht⟩))
  | function ht hs v =>
    rw [backwards_function] at h
    exact .inr (.inr (.inr ⟨(List.cons.inj h).1, _, _, v, .inl rfl, ht, hs⟩))
  | pointer ht w =>
    cases ht with
    | function ht hs v =>
      rw [backwards_functionPointer] at h
      exact .inr (.inr (.inr ⟨(List.cons.inj h).1, _, _, v, .inr ⟨w, rfl⟩, ht, hs⟩))
    | void => exact .inr (.inl (hpointer _ w .void id h))
    | bool => exact .inr (.inl (hpointer _ w .bool id h))
    | int w' signed => exact .inr (.inl (hpointer _ w (.int w' signed) id h))
    | float w' => exact .inr (.inl (hpointer _ w (.float w') id h))
    | pointer ht w' => exact .inr (.inl (hpointer _ w (.pointer ht w') id h))
    | array ht n => exact .inr (.inl (hpointer _ w (.array ht n) id h))

/-- What stands in front of a type is no part of a word. -/
theorem IsWord.eq_nil_of_delimits (ht : t.IsWord) {x a r r' : List Char} (hr : Delimits r)
    (hback : backwards t = x ++ a) (ha : r = a ++ r') : a = [] := by
  obtain ⟨c, w, htext, hletter, hchars⟩ := ht.spelling_eq_cons
  have hmem : ∀ d ∈ a, isWordChar d = true := by
    intro d hd
    have hback' : d ∈ backwards t := hback ▸ List.mem_append_right x hd
    rw [backwards, List.mem_reverse, htext] at hback'
    exact List.all_eq_true.1 hchars d hback'
  cases a with
  | nil => rfl
  | cons d a =>
    obtain ⟨hd, htail⟩ := List.forall_mem_cons.1 hmem
    rcases hr with rfl | ⟨rest, rfl⟩ | ⟨rest, rfl⟩
    · cases ha
    · rw [← (List.cons.inj ha).1] at hd
      exact absurd hd (by decide)
    · obtain ⟨rfl, hrest⟩ := List.cons.inj ha
      cases a with
      | nil =>
        -- The word would begin with a blank.
        rw [backwards, List.reverse_eq_iff, htext, List.reverse_append] at hback
        rw [(List.cons.inj hback).1] at hletter
        exact absurd hletter (blank_notMem_letters t)
      | cons e a =>
        have he := htail e List.mem_cons_self
        rw [← (List.cons.inj hrest).1] at he
        exact absurd he (by decide)

theorem IsWord.eq_of_backwards_append (ht : t.IsWord) (hu : u.IsWord) {r r' : List Char}
    (hr : Delimits r) (hr' : Delimits r') (h : backwards t ++ r = backwards u ++ r') :
    t = u ∧ r = r' := by
  have hsame : backwards t = backwards u ∧ r = r' := by
    rcases List.append_eq_append_iff.1 h with ⟨a, hback, ha⟩ | ⟨a, hback, ha⟩
    · obtain rfl := hu.eq_nil_of_delimits hr hback ha
      exact ⟨((List.append_nil _).symm.trans hback.symm), ha⟩
    · obtain rfl := ht.eq_nil_of_delimits hr' hback ha
      exact ⟨hback.trans (List.append_nil _), ha.symm⟩
  exact ⟨ht.eq_of_spelling_eq hu (List.reverse_injective hsame.1), hsame.2⟩

/-! ### One form after the other -/

theorem readable_word (ht : t.IsWord) : Readable t := by
  intro u hu r r' hr hr' h
  obtain ⟨c, x, hback, hc⟩ := ht.backwards_eq_cons
  have hform := hu.form_of_backwards (by rw [← h, hback, List.cons_append])
  rcases hform with ⟨-, hword⟩ | ⟨rfl, -⟩ | ⟨rfl, -⟩ | ⟨rfl, -⟩
  · obtain ⟨rfl, hrest⟩ := ht.eq_of_backwards_append hword hr hr' h
    exact ⟨rfl, hrest⟩
  all_goals exact absurd hc (by decide)

theorem Readable.pointer (ht : Readable t) (hf : ¬t.IsFunction) (w : UInt64) :
    Readable (.pointer t w) := by
  intro u hu r r' hr hr' h
  rw [backwards_pointer hf] at h
  rcases hu.form_of_backwards h with ⟨hc, -⟩ | ⟨-, target, w', rfl, hf', htarget⟩ | ⟨hc, -⟩ |
    ⟨hc, -⟩
  case inr.inl =>
    rw [backwards_pointer hf'] at h
    obtain ⟨hsame, hrest⟩ := ht target htarget r r' hr hr' (List.cons.inj h).2
    exact ⟨by rw [withoutPointerWidths, withoutPointerWidths, hsame], hrest⟩
  all_goals exact absurd hc (by decide)

theorem append_cons_inj_of_notMem {α : Type} {c : α} {x y a b : List α} (hx : c ∉ x) (hy : c ∉ y)
    (h : x ++ c :: a = y ++ c :: b) : x = y ∧ a = b := by
  rcases List.append_eq_append_iff.1 h with ⟨z, rfl, hz⟩ | ⟨z, rfl, hz⟩
  all_goals
    cases z with
    | nil => simpa [eq_comm] using hz
    | cons d z =>
      obtain ⟨rfl, -⟩ := List.cons.inj hz
      simp at hx hy

theorem Readable.array (ht : Readable t) (n : UInt64) : Readable (.array t n) := by
  have hbracket (n : UInt64) : '[' ∉ (Text.decimal n.toNat).reverse := by
    intro hmem
    have hdigit : '['.isDigit = true := Text.isDigit_of_mem_decimal (List.mem_reverse.1 hmem)
    exact absurd hdigit (by decide)
  intro u hu r r' hr hr' h
  rw [backwards_array] at h
  rcases hu.form_of_backwards h with ⟨hc, -⟩ | ⟨hc, -⟩ | ⟨-, element, n', rfl, helement⟩ | ⟨hc, -⟩
  case inr.inr.inl =>
    rw [backwards_array] at h
    simp only [List.cons_append, List.append_assoc, List.cons.injEq, true_and] at h
    obtain ⟨hcount, hfront⟩ := append_cons_inj_of_notMem (hbracket n) (hbracket n') h
    obtain ⟨hsame, hrest⟩ := ht element helement r r' hr hr' hfront
    have hn : n = n' := UInt64.toNat_inj.1 (Text.decimal_injective (List.reverse_injective hcount))
    exact ⟨by rw [withoutPointerWidths, withoutPointerWidths, hsame, hn], hrest⟩
  all_goals exact absurd hc (by decide)

/-! ### Parameters -/

theorem delimits_precedingBackwards (ps : List DataType) (x : List Char) :
    Delimits (precedingBackwards ps ++ '(' :: x) := by
  rcases List.eq_nil_or_concat ps with rfl | ⟨front, p, rfl⟩
  · exact .inr (.inl ⟨x, rfl⟩)
  · rw [List.concat_eq_append, precedingBackwards_concat]
    exact .inr (.inr ⟨_, rfl⟩)

theorem eq_of_precedingBackwards (hps : ∀ p ∈ ps, Readable p) (hqs : ∀ q ∈ qs, q.Plain)
    {x y : List Char} (h : precedingBackwards ps ++ '(' :: x = precedingBackwards qs ++ '(' :: y) :
    ps.map withoutPointerWidths = qs.map withoutPointerWidths ∧ x = y := by
  induction ps using List.reverseRecOn generalizing qs with
  | nil =>
    rcases List.eq_nil_or_concat qs with rfl | ⟨qs, q, rfl⟩
    · exact ⟨rfl, (List.cons.inj h).2⟩
    · rw [List.concat_eq_append, precedingBackwards_concat] at h
      exact absurd (List.cons.inj h).1 (by decide)
  | append_singleton ps p ih =>
    rcases List.eq_nil_or_concat qs with rfl | ⟨qs, q, rfl⟩
    · rw [precedingBackwards_concat] at h
      exact absurd (List.cons.inj h).1 (by decide)
    · rw [List.concat_eq_append] at hqs h ⊢
      obtain ⟨hps, hp⟩ := List.forall_mem_append.1 hps
      obtain ⟨hqs, hq⟩ := List.forall_mem_append.1 hqs
      simp only [precedingBackwards_concat, List.cons_append, List.append_assoc, List.cons.injEq,
        true_and] at h
      obtain ⟨hlast, hfront⟩ := hp p List.mem_cons_self q (hq q List.mem_cons_self) _ _
        (delimits_precedingBackwards ps x) (delimits_precedingBackwards qs y) h
      obtain ⟨hmap, hrest⟩ := ih hps hqs hfront
      exact ⟨by rw [List.map_append, List.map_append, hmap, List.map_singleton, List.map_singleton,
        hlast], hrest⟩

/-- No spelling ends like the mark for further arguments or like an opening bracket. -/
theorem Plain.ne_of_backwards {c : Char} {x r : List Char} (hu : u.Plain)
    (h : c :: x = backwards u ++ r) : c ≠ '.' ∧ c ≠ '(' := by
  rcases hu.form_of_backwards h with ⟨hc, -⟩ | ⟨rfl, -⟩ | ⟨rfl, -⟩ | ⟨rfl, -⟩
  · exact ⟨fun hdot => absurd (hdot ▸ hc) (by decide), fun hopen => absurd (hopen ▸ hc) (by decide)⟩
  all_goals exact ⟨by decide, by decide⟩

theorem dot_ne_argumentsBackwards (hps : ∀ p ∈ ps, p.Plain) (x y : List Char) :
    '.' :: x ≠ argumentsBackwards ps false ++ '(' :: y := by
  intro h
  rcases List.eq_nil_or_concat ps with rfl | ⟨front, p, rfl⟩
  · exact absurd (List.cons.inj h).1 (by decide)
  · rw [List.concat_eq_append] at hps h
    rw [argumentsBackwards_concat, List.append_assoc] at h
    exact ((hps p (List.mem_append_right front List.mem_cons_self)).ne_of_backwards h).1 rfl

theorem eq_nil_of_argumentsBackwards (hps : ∀ p ∈ ps, p.Plain) {x y : List Char}
    (h : '(' :: x = argumentsBackwards ps false ++ '(' :: y) : ps = [] := by
  rcases List.eq_nil_or_concat ps with rfl | ⟨front, p, rfl⟩
  · rfl
  · rw [List.concat_eq_append] at hps h
    rw [argumentsBackwards_concat, List.append_assoc] at h
    exact absurd rfl ((hps p (List.mem_append_right front List.mem_cons_self)).ne_of_backwards h).2

theorem eq_of_argumentsBackwards (hps : ∀ p ∈ ps, p.Plain) (hread : ∀ p ∈ ps, Readable p)
    (hqs : ∀ q ∈ qs, q.Plain) {v v' : Bool} {x y : List Char}
    (h : argumentsBackwards ps v ++ '(' :: x = argumentsBackwards qs v' ++ '(' :: y) :
    v = v' ∧ ps.map withoutPointerWidths = qs.map withoutPointerWidths ∧ x = y := by
  cases v with
  | true =>
    rw [argumentsBackwards_variadic] at h
    cases v' with
    | true =>
      simp only [argumentsBackwards_variadic, List.cons_append, List.cons.injEq, true_and] at h
      exact ⟨rfl, eq_of_precedingBackwards hread hqs h⟩
    | false => exact absurd h (dot_ne_argumentsBackwards hqs _ y)
  | false =>
    cases v' with
    | true =>
      rw [argumentsBackwards_variadic] at h
      exact absurd h.symm (dot_ne_argumentsBackwards hps _ x)
    | false =>
      rcases List.eq_nil_or_concat ps with rfl | ⟨front, p, rfl⟩
      · obtain rfl := eq_nil_of_argumentsBackwards hqs h
        exact ⟨rfl, rfl, (List.cons.inj h).2⟩
      rcases List.eq_nil_or_concat qs with rfl | ⟨front', q, rfl⟩
      · obtain hnil := eq_nil_of_argumentsBackwards hps h.symm
        simp at hnil
      -- The last parameters have no comma behind them; with one they would be preceding ones.
      rw [List.concat_eq_append] at hread
      simp only [List.concat_eq_append, argumentsBackwards_concat] at hqs h
      rw [List.concat_eq_append, List.concat_eq_append]
      refine ⟨rfl, eq_of_precedingBackwards hread hqs ?_⟩
      rw [precedingBackwards_concat, precedingBackwards_concat, List.cons_append, List.cons_append,
        List.cons_append, List.cons_append, h]

/-! ### Functions -/

/-- What ends with a closing bracket has the parameters between the brackets, and is a function or
a pointer to one by what stands in front of them. -/
theorem Plain.eq_of_brackets {v : Bool} {x r : List Char} (hps : ∀ p ∈ ps, p.Plain)
    (hread : ∀ p ∈ ps, Readable p) (hu : u.Plain)
    (h : ')' :: (argumentsBackwards ps v ++ '(' :: x) = backwards u ++ r) :
    ∃ result qs, result.Plain ∧ ps.map withoutPointerWidths = qs.map withoutPointerWidths ∧
      ((u = .function result qs v ∧ x = ' ' :: (backwards result ++ r)) ∨
        ∃ w, u = .pointer (.function result qs v) w ∧
          x = ')' :: '*' :: '(' :: ' ' :: (backwards result ++ r)) := by
  rcases hu.form_of_backwards h with ⟨hc, -⟩ | ⟨hc, -⟩ | ⟨hc, -⟩ |
    ⟨-, result, qs, v', rfl | ⟨w, rfl⟩, hresult, hqs⟩
  case inr.inr.inr.inl =>
    simp only [backwards_function, List.cons_append, List.append_assoc, List.cons.injEq,
      true_and] at h
    obtain ⟨rfl, hmap, hfront⟩ := eq_of_argumentsBackwards hps hread hqs h
    exact ⟨result, qs, hresult, hmap, .inl ⟨rfl, hfront⟩⟩
  case inr.inr.inr.inr =>
    simp only [backwards_functionPointer, List.cons_append, List.append_assoc, List.cons.injEq,
      true_and] at h
    obtain ⟨rfl, hmap, hfront⟩ := eq_of_argumentsBackwards hps hread hqs h
    exact ⟨result, qs, hresult, hmap, .inr ⟨w, rfl, hfront⟩⟩
  all_goals exact absurd hc (by decide)

theorem Readable.function (ht : Readable t) (hps : ∀ p ∈ ps, p.Plain)
    (hread : ∀ p ∈ ps, Readable p) (v : Bool) : Readable (.function t ps v) := by
  intro u hu r r' hr hr' h
  simp only [backwards_function, List.cons_append, List.append_assoc] at h
  obtain ⟨result, qs, hresult, hmap, ⟨rfl, hfront⟩ | ⟨w, rfl, hfront⟩⟩ :=
    hu.eq_of_brackets hps hread h
  · obtain ⟨hsame, hrest⟩ := ht result hresult r r' hr hr' (List.cons.inj hfront).2
    refine ⟨?_, hrest⟩
    simp only [withoutPointerWidths, listWithoutPointerWidths_eq_map, hsame, hmap]
  · exact absurd (List.cons.inj hfront).1 (by decide)

theorem Readable.functionPointer (ht : Readable t) (hps : ∀ p ∈ ps, p.Plain)
    (hread : ∀ p ∈ ps, Readable p) (v : Bool) (w : UInt64) :
    Readable (.pointer (.function t ps v) w) := by
  intro u hu r r' hr hr' h
  simp only [backwards_functionPointer, List.cons_append, List.append_assoc] at h
  obtain ⟨result, qs, hresult, hmap, ⟨rfl, hfront⟩ | ⟨w', rfl, hfront⟩⟩ :=
    hu.eq_of_brackets hps hread h
  · exact absurd (List.cons.inj hfront).1 (by decide)
  · simp only [List.cons.injEq, true_and] at hfront
    obtain ⟨hsame, hrest⟩ := ht result hresult r r' hr hr' hfront
    refine ⟨?_, hrest⟩
    simp only [withoutPointerWidths, listWithoutPointerWidths_eq_map, hsame, hmap]

theorem Plain.readable (h : t.Plain) : Readable t :=
  h.forms (fun _ => readable_word) (fun _ w hf ih => ih.pointer hf w) (fun _ n ih => ih.array n)
    (fun _ _ v ih hps ihs => ih.function hps ihs v)
    (fun _ _ v w ih hps ihs => ih.functionPointer hps ihs v w)

/-! ### What spellings leave out -/

theorem isFunction_withoutPointerWidths (t : DataType) :
    t.withoutPointerWidths.IsFunction ↔ t.IsFunction := by
  cases t <;> simp only [withoutPointerWidths, IsFunction]

theorem IsWord.withoutPointerWidths_eq (h : t.IsWord) : t.withoutPointerWidths = t := by
  cases t with
  | void | bool | int | float => simp only [withoutPointerWidths]
  | _ => exact h.elim

theorem spellings_map {f : DataType → DataType} (h : ∀ p ∈ ps, (f p).spelling = p.spelling) :
    spellings (ps.map f) = spellings ps := by
  induction ps with
  | nil => rfl
  | cons p ps ih =>
    obtain ⟨hp, hps⟩ := List.forall_mem_cons.1 h
    cases ps with
    | nil => simp only [List.map_cons, List.map_nil, spellings, hp]
    | cons q ps =>
      rw [List.map_cons, spellings_cons (by simp), spellings_cons (by simp), hp, ih hps]

theorem argumentsBackwards_map {f : DataType → DataType}
    (h : ∀ p ∈ ps, backwards (f p) = backwards p) (v : Bool) :
    argumentsBackwards (ps.map f) v = argumentsBackwards ps v := by
  rw [argumentsBackwards, argumentsBackwards, List.isEmpty_map,
    spellings_map fun p hp => List.reverse_injective (h p hp)]

theorem Plain.backwards_withoutPointerWidths (h : t.Plain) :
    backwards t.withoutPointerWidths = backwards t := by
  refine h.forms (motive := fun t => backwards t.withoutPointerWidths = backwards t) ?word ?pointer
    ?array ?function ?functionPointer
  case word => exact fun t ht => congrArg backwards ht.withoutPointerWidths_eq
  case pointer =>
    intro t w hf ih
    rw [withoutPointerWidths, backwards_pointer hf,
      backwards_pointer (mt (isFunction_withoutPointerWidths t).1 hf), ih]
  case array =>
    intro t n ih
    rw [withoutPointerWidths, backwards_array, backwards_array, ih]
  case function =>
    intro t ps v ih hps ihs
    rw [withoutPointerWidths, listWithoutPointerWidths_eq_map, backwards_function,
      backwards_function, argumentsBackwards_map ihs, ih]
  case functionPointer =>
    intro t ps v w ih hps ihs
    rw [withoutPointerWidths, withoutPointerWidths, listWithoutPointerWidths_eq_map,
      backwards_functionPointer, backwards_functionPointer, argumentsBackwards_map ihs, ih]

/-- **Types are told by their spellings**: of those made of numbers, pointers, arrays and functions,
two are displayed alike exactly if they differ in the widths of pointers at most. -/
theorem display_eq_iff (ht : t.Plain) (hu : u.Plain) :
    t.display = u.display ↔ t.withoutPointerWidths = u.withoutPointerWidths := by
  have hbackwards : t.display = u.display ↔ backwards t = backwards u := by
    rw [display, display, String.ofList_inj, backwards, backwards, List.reverse_inj]
  rw [hbackwards]
  constructor
  · intro h
    exact (ht.readable u hu [] [] (.inl rfl) (.inl rfl) (congrArg (· ++ []) h)).1
  · intro h
    rw [← ht.backwards_withoutPointerWidths, h, hu.backwards_withoutPointerWidths]

/-- A function that is called back, through pointers of one width or the other, and one that has
the same parameters and returns a pointer. -/
theorem display_eq_iff_callback :
    let parameters (width : UInt64) : List DataType :=
      [.array (.float 10) 3, .pointer (.int 1 true) width]
    let callback (width : UInt64) : DataType :=
      .pointer (.function .void (parameters width) true) width
    let supplier : DataType := .function (.pointer .void 8) (parameters 8) true
    (callback 4).Plain ∧ (callback 8).Plain ∧ supplier.Plain ∧
      (callback 4).display = (callback 8).display ∧ (callback 8).display ≠ supplier.display := by
  intro parameters callback supplier
  have hparameters (width : UInt64) : ∀ p ∈ parameters width, p.Plain :=
    List.forall_mem_cons.2 ⟨.array (.float 10) 3,
      List.forall_mem_singleton.2 (.pointer (.int 1 true) width)⟩
  have hcallback (width : UInt64) : (callback width).Plain :=
    .pointer (.function .void (hparameters width) true) width
  have hsupplier : supplier.Plain := .function (.pointer .void 8) (hparameters 8) true
  refine ⟨hcallback 4, hcallback 8, hsupplier, (display_eq_iff (hcallback 4) (hcallback 8)).2 ?_,
    mt (display_eq_iff (hcallback 8) hsupplier).1 ?_⟩
  · simp only [callback, parameters, withoutPointerWidths, listWithoutPointerWidths]
  · simp only [callback, supplier, withoutPointerWidths, reduceCtorEq, not_false_eq_true]

end DataType

end DebugCatalog
