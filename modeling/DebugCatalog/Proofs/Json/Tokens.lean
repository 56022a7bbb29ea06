import DebugCatalog.Json.Scanner
import DebugCatalog.Json.Writer
import Mathlib.Data.Nat.Digits.Defs

/-!
# Strings and numerals read back

What the writer makes of a string or of a word, the scanner takes apart again.

* `scanString_escaped`: the escaped characters of a string and a closing quote
  are read as that string, given more steps than it has characters.
* `scanNumber_decimal`: a decimal numeral is read as its word.  A numeral has no
  end of its own, so what follows it must be no part of a number
  (`BreaksNumber`).
-/

namespace DebugCatalog.Json

/-! ## Strings -/

theorem hexPadded_four : ∀ n < 0x20, Text.hexPadded 4 n =
    ['0', '0', Nat.digitChar (n / 16), Nat.digitChar (n % 16)] := by
  decide

theorem hexDigit?_digitChar : ∀ d < 16, Text.hexDigit? (Nat.digitChar d) = some d := by
  decide

theorem hexEscape_hexPadded {n : Nat} (h : n < 0x20) (cs : List Char) :
    hexEscape (Text.hexPadded 4 n ++ cs) = .ok (n, cs) := by
  have hzero : Text.hexDigit? '0' = some 0 := by decide
  rw [hexPadded_four n h]
  simp only [List.cons_append, List.nil_append, hexEscape, hzero,
    hexDigit?_digitChar (n / 16) (by omega), hexDigit?_digitChar (n % 16) (by omega)]
  rw [show ((0 * 16 + 0) * 16 + n / 16) * 16 + n % 16 = n by omega]

theorem scanString_plain {c : Char} (hquote : c ≠ '"') (hback : c ≠ '\\') (hc : ¬ c.toNat < 0x20)
    (fuel : Nat) (cs : List Char) :
    scanString (fuel + 1) (c :: cs) =
      (scanString fuel cs).map fun (s, rest) => (c :: s, rest) := by
  rw [scanString, if_neg hc]
  · cases scanString fuel cs <;> rfl
  · exact hquote
  · exact hback

/-- One step of the scanner passes over one escaped character. -/
theorem scanString_escape (c : Char) (fuel : Nat) (cs : List Char) :
    scanString (fuel + 1) (escape c ++ cs) =
      (scanString fuel cs).map fun (s, rest) => (c :: s, rest) := by
  unfold escape
  split
  any_goals rfl
  split
  · next hc =>
    simp only [List.cons_append, scanString, unescape, hexEscape_hexPadded hc, bind, Except.bind]
    rw [if_neg (by omega), if_neg (by omega)]
    simp only [Char.ofNat_toNat]
    cases scanString fuel cs <;> rfl
  · next hquote hback _ _ _ _ _ hc => exact scanString_plain hquote hback hc fuel cs

/-- **A string is read back from its escaped characters** and the closing quote. -/
theorem scanString_escaped (s : List Char) (fuel : Nat) (h : s.length < fuel) (rest : List Char) :
    scanString fuel (s.flatMap escape ++ '"' :: rest) = .ok (s, rest) := by
  induction s generalizing fuel with
  | nil =>
    obtain ⟨fuel, rfl⟩ : ∃ n, fuel = n + 1 := ⟨fuel - 1, by simp at h; omega⟩
    rfl
  | cons c s ih =>
    obtain ⟨fuel, rfl⟩ : ∃ n, fuel = n + 1 := ⟨fuel - 1, by simp at h; omega⟩
    rw [List.flatMap_cons, List.append_assoc, scanString_escape,
      ih _ (by simp only [List.length_cons] at h; omega)]
    rfl

/-! ## Numerals -/

/-- A character that a number could go on with. -/
def continuesNumber (c : Char) : Bool :=
  isDigit c || c == '.' || c == 'e' || c == 'E'

/-- The text breaks off any number in front of it. -/
def BreaksNumber (cs : List Char) : Prop :=
  ∀ c ∈ cs.head?, continuesNumber c = false

theorem breaksNumber_cons {c : Char} (h : continuesNumber c = false) (cs : List Char) :
    BreaksNumber (c :: cs) := by
  intro c' hc'
  cases hc'
  exact h

theorem BreaksNumber.isDigit_eq_false {c : Char} {cs : List Char} (h : BreaksNumber cs)
    (hc : cs.head? = some c) : isDigit c = false := by
  have := h c hc
  simp only [continuesNumber, Bool.or_eq_false_iff] at this
  exact this.1.1.1

theorem digit?_of_isDigit {c : Char} (h : isDigit c = true) :
    Text.digit? c = some (c.toNat - '0'.toNat) := by
  unfold Text.digit?
  rw [if_pos]
  simpa [isDigit] using h

theorem digit?_eq_none {c : Char} (h : isDigit c = false) : Text.digit? c = none := by
  unfold Text.digit?
  rw [if_neg]
  simpa [isDigit] using h

theorem le_ofDigitChars (ds : List Char) (acc : Nat) : acc ≤ Nat.ofDigitChars 10 ds acc := by
  rw [Nat.ofDigitChars_eq_ofDigitChars_zero]
  have hpos : 0 < 10 ^ ds.length := Nat.pow_pos (by decide)
  have hle := Nat.le_mul_of_pos_left acc hpos
  omega

/-- Digits are taken in up to the end of the numeral, if their value is in bounds. -/
theorem takeDigits_append {ds : List Char} (hds : ∀ c ∈ ds, isDigit c = true)
    {rest : List Char} (hrest : BreaksNumber rest) (acc taken : Nat)
    (h : Nat.ofDigitChars 10 ds acc ≤ maxSignificand) :
    takeDigits acc taken (ds ++ rest) = (Nat.ofDigitChars 10 ds acc, taken + ds.length, rest) := by
  induction ds generalizing acc taken with
  | nil =>
    cases rest with
    | nil => rfl
    | cons c cs =>
      rw [List.nil_append, takeDigits, digit?_eq_none (hrest.isDigit_eq_false rfl)]
      rfl
  | cons c ds ih =>
    rw [Nat.ofDigitChars_cons, Nat.mul_comm] at h ⊢
    have hbound := (le_ofDigitChars ds _).trans h
    rw [List.cons_append, takeDigits, digit?_of_isDigit (hds c (List.mem_cons_self ..))]
    simp only [if_pos hbound]
    rw [ih (fun c hc => hds c (List.mem_cons_of_mem _ hc)) _ _ h, List.length_cons]
    congr 2
    omega

theorem isDigit_of_mem_decimal {n : Nat} {c : Char} (h : c ∈ Text.decimal n) : isDigit c = true :=
  Nat.isDigit_of_mem_toDigits (by decide) (by decide) h

/-- The numeral of a number other than zero does not begin with a zero. -/
theorem exists_decimal_eq_cons {n : Nat} (h : 0 < n) :
    ∃ c ds, Text.decimal n = c :: ds ∧ c ≠ '0' := by
  induction n using Nat.strongRecOn with
  | ind n ih =>
    unfold Text.decimal at ih ⊢
    by_cases hn : n < 10
    · refine ⟨n.digitChar, [], Nat.toDigits_of_lt_base hn, ?_⟩
      simpa using Nat.pos_iff_ne_zero.1 h
    · obtain ⟨c, ds, hds, hc⟩ := ih (n / 10) (by omega) (by omega)
      refine ⟨c, ds ++ [(n % 10).digitChar], ?_, hc⟩
      rw [Nat.toDigits_of_base_le (by decide) (by omega), hds, List.cons_append]

theorem scanAfterWhole_of_breaks {rest : List Char} (hrest : BreaksNumber rest) (n : Nat) :
    scanAfterWhole false n rest = .ok (.natural (UInt64.ofNat n), rest) := by
  unfold scanAfterWhole
  split
  · exact absurd (hrest '.' rfl) (by decide)
  · exact absurd (hrest 'e' rfl) (by decide)
  · exact absurd (hrest 'E' rfl) (by decide)
  · rfl

/-- **A word is read back from its numeral.** -/
theorem scanNumber_decimal (w : UInt64) {rest : List Char} (hrest : BreaksNumber rest) :
    scanNumber false (Text.decimal w.toNat ++ rest) = .ok (.natural w, rest) := by
  have hhead : rest.head?.any isDigit = false := by
    cases rest with
    | nil => rfl
    | cons c cs => exact hrest.isDigit_eq_false rfl
  have hword : UInt64.ofNat w.toNat = w := UInt64.ofNat_toNat
  rcases Nat.eq_zero_or_pos w.toNat with hw | hw
  · rw [show Text.decimal w.toNat = ['0'] by rw [hw]; rfl]
    simp only [List.cons_append, List.nil_append, scanNumber, hhead]
    rw [if_neg (by decide), scanAfterWhole_of_breaks hrest, ← hw, hword]
  · obtain ⟨c, ds, hds, hc⟩ := exists_decimal_eq_cons hw
    have hdigits : ∀ x ∈ c :: ds, isDigit x = true := by
      intro x hx
      rw [← hds] at hx
      exact isDigit_of_mem_decimal hx
    have hvalue : Nat.ofDigitChars 10 ds (c.toNat - '0'.toNat) = w.toNat := by
      have hall : Nat.ofDigitChars 10 (Text.decimal w.toNat) 0 = w.toNat :=
        Nat.ofDigitChars_ten_toDigits
      rw [hds, Nat.ofDigitChars_cons, Nat.mul_zero, Nat.zero_add] at hall
      exact hall
    have hbound : Nat.ofDigitChars 10 ds (c.toNat - '0'.toNat) ≤ maxSignificand := by
      rw [hvalue]
      exact Nat.le_of_lt_succ w.toNat_lt
    rw [hds, List.cons_append, scanNumber]
    · rw [digit?_of_isDigit (hdigits c (List.mem_cons_self ..))]
      simp only [takeDigits_append (fun x hx => hdigits x (List.mem_cons_of_mem _ hx)) hrest _ _
        hbound, hhead]
      rw [if_neg (by decide), scanAfterWhole_of_breaks hrest, hvalue, hword]
    · exact hc

end DebugCatalog.Json
