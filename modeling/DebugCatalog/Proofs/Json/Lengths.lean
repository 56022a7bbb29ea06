import DebugCatalog.Proofs.Json.Nesting

/-!
# Characters that are left

Whoever passes over a value leaves fewer characters than there were.  This is what counts the steps
that are enough: no step goes by without a character, except for the one that enters an array.

* `length_lt_of_skipString`, `length_lt_of_skipNumber`: strings and numbers are not empty.
* `length_lt_of_objectTurn`, `length_le_of_arrayTurn`: what stands in front of an entry or an item.
* `length_lt_of_skipValue`: a value has at least one character.
-/

namespace DebugCatalog.Json

variable {cs rest : List Char}

/-! ## Words and strings -/

theorem length_dropWhile_le (p : Char → Bool) (cs : List Char) :
    (cs.dropWhile p).length ≤ cs.length :=
  (List.dropWhile_suffix p).length_le

theorem length_le_of_expectWord {ws : List Char} (h : expectWord ws cs = .ok rest) :
    rest.length ≤ cs.length := by
  induction ws generalizing cs with
  | nil =>
    cases h
    exact Nat.le_refl _
  | cons w ws ih =>
    cases cs with
    | nil => cases h
    | cons c cs =>
      rw [expectWord] at h
      split at h
      · exact Nat.le_succ_of_le (ih h)
      · cases h

theorem length_lt_of_hexEscape {n : Nat} (h : hexEscape cs = .ok (n, rest)) :
    rest.length < cs.length := by
  unfold hexEscape at h
  split at h
  · split at h
    · cases h
      simp only [List.length_cons]
      omega
    · cases h
  · split at h <;> cases h

theorem length_lt_of_skipString {fuel : Nat} (h : skipString fuel cs = .ok rest) :
    rest.length < cs.length := by
  induction fuel generalizing cs with
  | zero => cases h
  | succ fuel ih =>
    unfold skipString at h
    split at h
    · cases h
    · cases h
      exact Nat.lt_succ_self _
    · cases h
    · obtain ⟨⟨n, mid⟩, hhex, h⟩ := exists_of_bind_eq_ok h
      have hmid := length_lt_of_hexEscape hhex
      have hrest := ih h
      simp only [List.length_cons]
      omega
    · split at h
      · have hrest := ih h
        simp only [List.length_cons]
        omega
      · cases h
    · split at h
      · cases h
      · exact Nat.lt_succ_of_lt (ih h)

/-! ## Numbers -/

/-- What is left behind the sign of an exponent, which may have none. -/
def afterSign : List Char → List Char
  | '+' :: cs => cs
  | '-' :: cs => cs
  | cs => cs

theorem afterSign_of_ne (hplus : ∀ more, cs ≠ '+' :: more) (hminus : ∀ more, cs ≠ '-' :: more) :
    afterSign cs = cs := by
  unfold afterSign
  split
  · exact absurd rfl (hplus _)
  · exact absurd rfl (hminus _)
  · rfl

theorem length_afterSign_le (cs : List Char) : (afterSign cs).length ≤ cs.length := by
  unfold afterSign
  split <;> simp

theorem skipExponent_eq (cs : List Char) : skipExponent cs =
    match afterSign cs with
    | c :: cs => if isDigit c then .ok (cs.dropWhile isDigit) else .error .malformed
    | [] => .error .malformed := rfl

theorem length_lt_of_skipExponent (h : skipExponent cs = .ok rest) : rest.length < cs.length := by
  rw [skipExponent_eq] at h
  have hsign := length_afterSign_le cs
  split at h
  · next c more heq =>
    split at h
    · cases h
      have hdigits := length_dropWhile_le isDigit more
      rw [heq, List.length_cons] at hsign
      omega
    · cases h
  · cases h

theorem length_le_of_skipTail (h : skipTail cs = .ok rest) : rest.length ≤ cs.length := by
  unfold skipTail at h
  split at h
  · exact Nat.le_succ_of_le (length_lt_of_skipExponent h).le
  · exact Nat.le_succ_of_le (length_lt_of_skipExponent h).le
  · cases h
    exact Nat.le_refl _

/-- What may follow the first part of a number, passed over. -/
def skipAfterWhole (cs : List Char) : Except Fault (List Char) :=
  match cs with
  | '.' :: cs =>
    if cs.head?.any isDigit then skipTail (cs.dropWhile isDigit) else .error .malformed
  | cs => skipTail cs

theorem skipNumber_zero (cs : List Char) : skipNumber ('0' :: cs) =
    if cs.head?.any isDigit then .error .malformed else skipAfterWhole cs := rfl

theorem skipNumber_cons {c : Char} (hzero : c ≠ '0') (cs : List Char) : skipNumber (c :: cs) =
    if isDigit c then skipAfterWhole (cs.dropWhile isDigit) else .error .malformed := by
  unfold skipNumber
  dsimp only
  split
  · next heq => cases heq
  · next heq => exact absurd (List.cons.inj heq).1 hzero
  · next heq =>
    obtain ⟨rfl, rfl⟩ := List.cons.inj heq
    rfl

theorem length_le_of_skipAfterWhole (h : skipAfterWhole cs = .ok rest) :
    rest.length ≤ cs.length := by
  unfold skipAfterWhole at h
  split at h
  · next more =>
    split at h
    · have hdigits := length_dropWhile_le isDigit more
      have htail := length_le_of_skipTail h
      rw [List.length_cons]
      omega
    · cases h
  · exact length_le_of_skipTail h

theorem length_lt_of_skipNumber (h : skipNumber cs = .ok rest) : rest.length < cs.length := by
  cases cs with
  | nil => cases h
  | cons c more =>
    by_cases hzero : c = '0'
    · subst hzero
      rw [skipNumber_zero] at h
      split at h
      · cases h
      · exact Nat.lt_succ_of_le (length_le_of_skipAfterWhole h)
    · rw [skipNumber_cons hzero] at h
      split at h
      · have hdigits := length_dropWhile_le isDigit more
        have hafter := length_le_of_skipAfterWhole h
        rw [List.length_cons]
        omega
      · cases h

/-! ## Items and entries -/

theorem length_le_of_arrayTurn {first : Bool} (h : arrayTurn first cs = .ok (.item rest)) :
    rest.length ≤ cs.length := by
  have hspace : (skipSpace cs).length ≤ cs.length := length_dropWhile_le isSpace cs
  unfold arrayTurn at h
  split at h
  · cases h
  · cases h
  · next more heq =>
    rw [heq] at hspace
    split at h
    · cases h
      exact hspace
    · have hmore : (skipSpace more).length ≤ more.length := length_dropWhile_le isSpace more
      rw [List.length_cons] at hspace
      split at h <;> cases h
      omega
  · split at h <;> cases h
    exact hspace

theorem length_lt_of_arrayTurn_close {first : Bool} (h : arrayTurn first cs = .ok (.close rest)) :
    rest.length < cs.length := by
  have hspace : (skipSpace cs).length ≤ cs.length := length_dropWhile_le isSpace cs
  unfold arrayTurn at h
  split at h
  · cases h
  · next heq =>
    cases h
    rw [heq, List.length_cons] at hspace
    omega
  · split at h
    · cases h
    · split at h <;> cases h
  · split at h <;> cases h

theorem length_lt_of_keyStart (h : keyStart cs = .ok (.item rest)) : rest.length < cs.length := by
  rw [eq_of_keyStart h, List.length_cons]
  exact Nat.lt_succ_self _

theorem length_lt_of_objectTurn {first : Bool} (h : objectTurn first cs = .ok (.item rest)) :
    rest.length < cs.length := by
  have hspace : (skipSpace cs).length ≤ cs.length := length_dropWhile_le isSpace cs
  unfold objectTurn at h
  split at h
  · cases h
  · cases h
  · next more heq =>
    rw [heq, List.length_cons] at hspace
    split at h
    · cases h
    · have hmore : (skipSpace more).length ≤ more.length := length_dropWhile_le isSpace more
      have hkey := length_lt_of_keyStart h
      omega
  · split at h
    · exact Nat.lt_of_lt_of_le (length_lt_of_keyStart h) hspace
    · cases h

theorem length_lt_of_objectTurn_close {first : Bool}
    (h : objectTurn first cs = .ok (.close rest)) : rest.length < cs.length := by
  have hspace : (skipSpace cs).length ≤ cs.length := length_dropWhile_le isSpace cs
  unfold objectTurn at h
  split at h
  · cases h
  · next heq =>
    cases h
    rw [heq, List.length_cons] at hspace
    omega
  · split at h
    · cases h
    · exact absurd h ne_close_of_keyStart
  · split at h
    · exact absurd h ne_close_of_keyStart
    · cases h

theorem length_lt_of_expectColon (h : expectColon cs = .ok rest) : rest.length < cs.length := by
  have hspace : (skipSpace cs).length ≤ cs.length := length_dropWhile_le isSpace cs
  unfold expectColon at h
  split at h
  · cases h
  · next heq =>
    cases h
    rw [heq, List.length_cons] at hspace
    omega
  · cases h

/-! ## Values -/

mutual

/-- A value has at least one character. -/
theorem length_lt_of_skipValue {fuel : Nat} {cs rest : List Char}
    (h : skipValue fuel cs = .ok rest) : rest.length < cs.length := by
  have hspace : (skipSpace cs).length ≤ cs.length := length_dropWhile_le isSpace cs
  cases fuel with
  | zero => cases h
  | succ fuel =>
    rw [skipValue] at h
    refine Nat.lt_of_lt_of_le ?_ hspace
    split at h
    · cases h
    · next heq => exact heq ▸ Nat.lt_succ_of_le (length_le_of_expectWord h)
    · next heq => exact heq ▸ Nat.lt_succ_of_le (length_le_of_expectWord h)
    · next heq => exact heq ▸ Nat.lt_succ_of_le (length_le_of_expectWord h)
    · next heq => exact heq ▸ Nat.lt_succ_of_lt (length_lt_of_skipString h)
    · next heq => exact heq ▸ Nat.lt_succ_of_lt (length_lt_of_skipNumber h)
    · next heq => exact heq ▸ Nat.lt_succ_of_lt (length_lt_of_skipItems h)
    · next heq => exact heq ▸ Nat.lt_succ_of_lt (length_lt_of_skipEntries h)
    · next heq =>
      split at h
      · exact heq ▸ length_lt_of_skipNumber h
      · cases h
termination_by fuel

theorem length_lt_of_skipItems {first : Bool} {fuel : Nat} {cs rest : List Char}
    (h : skipItems first fuel cs = .ok rest) : rest.length < cs.length := by
  cases fuel with
  | zero => cases h
  | succ fuel =>
    rw [skipItems] at h
    obtain ⟨turn, hturn, h⟩ := exists_of_bind_eq_ok h
    cases turn with
    | close mid =>
      cases h
      exact length_lt_of_arrayTurn_close hturn
    | item mid =>
      obtain ⟨behind, hvalue, h⟩ := exists_of_bind_eq_ok h
      have hturn := length_le_of_arrayTurn hturn
      have hvalue := length_lt_of_skipValue hvalue
      have hmore := length_lt_of_skipItems h
      omega
termination_by fuel

theorem length_lt_of_skipEntries {first : Bool} {fuel : Nat} {cs rest : List Char}
    (h : skipEntries first fuel cs = .ok rest) : rest.length < cs.length := by
  cases fuel with
  | zero => cases h
  | succ fuel =>
    rw [skipEntries] at h
    obtain ⟨turn, hturn, h⟩ := exists_of_bind_eq_ok h
    cases turn with
    | close mid =>
      cases h
      exact length_lt_of_objectTurn_close hturn
    | item mid =>
      obtain ⟨behind, hkey, h⟩ := exists_of_bind_eq_ok h
      obtain ⟨value, hcolon, h⟩ := exists_of_bind_eq_ok h
      obtain ⟨more, hvalue, h⟩ := exists_of_bind_eq_ok h
      have hturn := length_lt_of_objectTurn hturn
      have hkey := length_lt_of_skipString hkey
      have hcolon := length_lt_of_expectColon hcolon
      have hvalue := length_lt_of_skipValue hvalue
      have hmore := length_lt_of_skipEntries h
      omega
termination_by fuel

end

end DebugCatalog.Json
