import DebugCatalog.Proofs.Json.Lengths

/-!
# Values passed over

What a reader takes in can also be passed over: `skipValue` ends where `readValue` does.  It checks
less, so the other direction does not hold.

The two use up their steps in different ways: a character that is written as two surrogates is one
step for a reader, and two for whoever passes over it.  So the steps that are enough are counted by
the characters that are left.

* `Reading`: what a text begins with, and how it goes on from there, when it is read as a value.
* `skipString_of_scanString`, `skipNumber_of_scanNumber`: strings and numbers.
* `skipValue_of_readValue`: a value that was read can be passed over.
-/

namespace DebugCatalog.Json

variable {cs rest : List Char} {fuel room : Nat}

/-! ## How a value is read -/

/-- What a text begins with, and how it goes on from there, when it is read as a value. -/
inductive Reading (fuel room : Nat) (rest : List Char) : List Char → Json → Prop
  | null {more : List Char} (h : expectWord ['u', 'l', 'l'] more = .ok rest) :
      Reading fuel room rest ('n' :: more) .null
  | true {more : List Char} (h : expectWord ['r', 'u', 'e'] more = .ok rest) :
      Reading fuel room rest ('t' :: more) (.boolean true)
  | false {more : List Char} (h : expectWord ['a', 'l', 's', 'e'] more = .ok rest) :
      Reading fuel room rest ('f' :: more) (.boolean false)
  | string {more s : List Char} (h : scanString fuel more = .ok (s, rest)) :
      Reading fuel room rest ('"' :: more) (.string (String.ofList s))
  | negative {more : List Char} {n : Number} (h : scanNumber true more = .ok (n, rest)) :
      Reading fuel room rest ('-' :: more) (.number n)
  | digits {c : Char} {more : List Char} {n : Number} (hc : isDigit c = true)
      (h : scanNumber false (c :: more) = .ok (n, rest)) :
      Reading fuel room rest (c :: more) (.number n)
  | array {more : List Char} {less : Nat} {items : List Json} (hroom : room = less + 1)
      (h : readItems true fuel less more = .ok (items, rest)) :
      Reading fuel room rest ('[' :: more) (.array items)
  | object {more : List Char} {less : Nat} {entries : List (String × Json)}
      (hroom : room = less + 1) (h : readEntries true fuel less more = .ok (entries, rest)) :
      Reading fuel room rest ('\x7b' :: more) (.object entries)

theorem reading_of_readScalar {fuel : Nat} (room : Nat) {v : Json}
    (h : readScalar fuel cs = .ok (v, rest)) : Reading fuel room rest cs v := by
  unfold readScalar at h
  split at h
  · cases h
  · obtain ⟨mid, hword, h⟩ := exists_of_bind_eq_ok h
    cases h
    exact .null hword
  · obtain ⟨mid, hword, h⟩ := exists_of_bind_eq_ok h
    cases h
    exact .true hword
  · obtain ⟨mid, hword, h⟩ := exists_of_bind_eq_ok h
    cases h
    exact .false hword
  · obtain ⟨⟨s, mid⟩, hstring, h⟩ := exists_of_bind_eq_ok h
    cases h
    exact .string hstring
  · obtain ⟨⟨n, mid⟩, hnumber, h⟩ := exists_of_bind_eq_ok h
    cases h
    exact .negative hnumber
  · split at h
    · next hc =>
      obtain ⟨⟨n, mid⟩, hnumber, h⟩ := exists_of_bind_eq_ok h
      cases h
      exact .digits hc hnumber
    · cases h

theorem reading_of_readValue {fuel room : Nat} {v : Json}
    (h : readValue (fuel + 1) room cs = .ok (v, rest)) :
    Reading fuel room rest (skipSpace cs) v := by
  rw [readValue] at h
  split at h
  · next more heq =>
    rw [heq]
    cases room with
    | zero => cases h
    | succ room =>
      obtain ⟨⟨items, mid⟩, hitems, h⟩ := exists_of_bind_eq_ok h
      cases h
      exact .array rfl hitems
  · next more heq =>
    rw [heq]
    cases room with
    | zero => cases h
    | succ room =>
      obtain ⟨⟨entries, mid⟩, hentries, h⟩ := exists_of_bind_eq_ok h
      cases h
      exact .object rfl hentries
  · exact reading_of_readScalar room h

theorem arrayTurn_of_readItems_nil {first : Bool}
    (h : readItems first fuel room cs = .ok ([], rest)) :
    arrayTurn first cs = .ok (.close rest) := by
  cases fuel with
  | zero => cases h
  | succ fuel =>
    rw [readItems] at h
    obtain ⟨turn, hturn, h⟩ := exists_of_bind_eq_ok h
    cases turn with
    | close mid =>
      cases h
      exact hturn
    | item mid =>
      obtain ⟨_, -, h⟩ := exists_of_bind_eq_ok h
      obtain ⟨_, -, h⟩ := exists_of_bind_eq_ok h
      cases h

theorem exists_of_readItems_cons {first : Bool} {item : Json} {items : List Json}
    (h : readItems first fuel room cs = .ok (item :: items, rest)) :
    ∃ fewer mid behind, fuel = fewer + 1 ∧ arrayTurn first cs = .ok (.item mid) ∧
      readValue fewer room mid = .ok (item, behind) ∧
      readItems false fewer room behind = .ok (items, rest) := by
  cases fuel with
  | zero => cases h
  | succ fuel =>
    rw [readItems] at h
    obtain ⟨turn, hturn, h⟩ := exists_of_bind_eq_ok h
    cases turn with
    | close mid => cases h
    | item mid =>
      obtain ⟨⟨_, behind⟩, hitem, h⟩ := exists_of_bind_eq_ok h
      obtain ⟨⟨_, last⟩, hitems, h⟩ := exists_of_bind_eq_ok h
      cases h
      exact ⟨fuel, mid, behind, rfl, hturn, hitem, hitems⟩

theorem objectTurn_of_readEntries_nil {first : Bool}
    (h : readEntries first fuel room cs = .ok ([], rest)) :
    objectTurn first cs = .ok (.close rest) := by
  cases fuel with
  | zero => cases h
  | succ fuel =>
    rw [readEntries] at h
    obtain ⟨turn, hturn, h⟩ := exists_of_bind_eq_ok h
    cases turn with
    | close mid =>
      cases h
      exact hturn
    | item mid =>
      obtain ⟨_, -, h⟩ := exists_of_bind_eq_ok h
      obtain ⟨_, -, h⟩ := exists_of_bind_eq_ok h
      obtain ⟨_, -, h⟩ := exists_of_bind_eq_ok h
      obtain ⟨_, -, h⟩ := exists_of_bind_eq_ok h
      cases h

/-- The key of an entry, the colon, the value, and what follows. -/
theorem exists_of_readEntries_cons {first : Bool} {key : String} {v : Json}
    {entries : List (String × Json)}
    (h : readEntries first fuel room cs = .ok ((key, v) :: entries, rest)) :
    ∃ fewer mid s behind value more, fuel = fewer + 1 ∧ objectTurn first cs = .ok (.item mid) ∧
      scanString fewer mid = .ok (s, behind) ∧ String.ofList s = key ∧
      expectColon behind = .ok value ∧ readValue fewer room value = .ok (v, more) ∧
      readEntries false fewer room more = .ok (entries, rest) := by
  cases fuel with
  | zero => cases h
  | succ fuel =>
    rw [readEntries] at h
    obtain ⟨turn, hturn, h⟩ := exists_of_bind_eq_ok h
    cases turn with
    | close mid => cases h
    | item mid =>
      obtain ⟨⟨s, behind⟩, hkey, h⟩ := exists_of_bind_eq_ok h
      obtain ⟨value, hcolon, h⟩ := exists_of_bind_eq_ok h
      obtain ⟨⟨_, more⟩, hvalue, h⟩ := exists_of_bind_eq_ok h
      obtain ⟨⟨_, last⟩, hentries, h⟩ := exists_of_bind_eq_ok h
      cases h
      exact ⟨fuel, mid, s, behind, value, more, rfl, hturn, hkey, rfl, hcolon, hvalue, hentries⟩

/-! ## Strings -/

theorem skipString_hexEscape {n : Nat} (h : hexEscape cs = .ok (n, rest)) (fuel : Nat) :
    skipString (fuel + 1) ('\\' :: 'u' :: cs) = skipString fuel rest := by
  rw [skipString, h]
  rfl

theorem skipString_of_lowSurrogate {high : Nat} {c : Char}
    (h : lowSurrogate high cs = .ok (c, rest)) {fuel : Nat} (hfuel : cs.length ≤ fuel) :
    ∃ more, rest.length ≤ more ∧ skipString fuel cs = skipString more rest := by
  unfold lowSurrogate at h
  split at h
  · cases h
  · cases h
  · next mid =>
    obtain ⟨⟨low, behind⟩, hhex, h⟩ := exists_of_bind_eq_ok h
    dsimp only at h
    split at h
    · obtain ⟨-, rfl⟩ := Prod.mk.inj (Except.ok.inj h)
      obtain ⟨fuel, rfl⟩ : ∃ n, fuel = n + 1 := ⟨fuel - 1, by rw [List.length_cons] at hfuel; omega⟩
      have hmid := length_lt_of_hexEscape hhex
      simp only [List.length_cons] at hfuel
      exact ⟨fuel, by omega, skipString_hexEscape hhex fuel⟩
    · cases h
  · cases h

/-- A character written with a backslash is passed over, in one step or in two. -/
theorem skipString_of_unescape {c : Char} (h : unescape cs = .ok (c, rest)) {fuel : Nat}
    (hfuel : cs.length < fuel) :
    ∃ more, rest.length ≤ more ∧ skipString fuel ('\\' :: cs) = skipString more rest := by
  obtain ⟨fuel, rfl⟩ : ∃ n, fuel = n + 1 := ⟨fuel - 1, by omega⟩
  have hle : cs.length ≤ fuel := Nat.le_of_lt_succ hfuel
  unfold unescape at h
  split at h
  case h_10 more =>
    obtain ⟨⟨n, mid⟩, hhex, h⟩ := exists_of_bind_eq_ok h
    have hmid := length_lt_of_hexEscape hhex
    rw [skipString_hexEscape hhex]
    rw [List.length_cons] at hle
    dsimp only at h
    split at h
    · exact skipString_of_lowSurrogate h (by omega)
    · split at h <;> cases h
      exact ⟨fuel, by omega, rfl⟩
  all_goals
    cases h
    try exact ⟨fuel, Nat.le_of_succ_le hle, rfl⟩

theorem skipString_plain {c : Char} (hquote : c ≠ '"') (hback : c ≠ '\\') (hc : ¬ c.toNat < 0x20)
    (fuel : Nat) (cs : List Char) : skipString (fuel + 1) (c :: cs) = skipString fuel cs := by
  rw [skipString, if_neg hc]
  · exact hquote
  · exact fun h _ => hback h
  · exact fun _ h _ => hback h
  · exact fun _ _ h _ => hback h

/-- A string that was read can be passed over. -/
theorem skipString_of_scanString {fuel : Nat} {s : List Char}
    (h : scanString fuel cs = .ok (s, rest)) (steps : Nat) (hsteps : cs.length ≤ steps) :
    skipString steps cs = .ok rest := by
  induction fuel generalizing cs s steps with
  | zero => cases h
  | succ fuel ih =>
    unfold scanString at h
    split at h
    · cases h
    · cases h
      obtain ⟨steps, rfl⟩ : ∃ n, steps = n + 1 :=
        ⟨steps - 1, by rw [List.length_cons] at hsteps; omega⟩
      rfl
    · obtain ⟨⟨c, mid⟩, hescape, h⟩ := exists_of_bind_eq_ok h
      obtain ⟨⟨s, rest⟩, hmore, h⟩ := exists_of_bind_eq_ok h
      cases h
      obtain ⟨more, hle, hskip⟩ := skipString_of_unescape hescape hsteps
      rw [hskip]
      exact ih hmore more hle
    · next c mid hquote hback =>
      split at h
      · cases h
      · next hc =>
        obtain ⟨⟨s, rest⟩, hmore, h⟩ := exists_of_bind_eq_ok h
        cases h
        obtain ⟨steps, rfl⟩ : ∃ n, steps = n + 1 :=
          ⟨steps - 1, by rw [List.length_cons] at hsteps; omega⟩
        rw [skipString_plain hquote hback hc]
        exact ih hmore steps (Nat.le_of_succ_le_succ hsteps)

/-! ## Numbers -/

theorem isDigit_of_digit? {c : Char} {d : Nat} (h : Text.digit? c = some d) : isDigit c = true := by
  obtain ⟨⟨hzero, hnine⟩, -⟩ := Text.digit?_eq_some h
  simp [isDigit, hzero, hnine]

theorem isDigit_eq_false_of_digit? {c : Char} (h : Text.digit? c = none) : isDigit c = false := by
  rw [Bool.eq_false_iff]
  intro hc
  rw [digit?_of_isDigit hc] at h
  cases h

theorem exponentDigits_snd (acc : Nat) (cs : List Char) :
    (exponentDigits acc cs).2 = cs.dropWhile isDigit := by
  induction cs generalizing acc with
  | nil => rfl
  | cons c cs ih =>
    rw [exponentDigits]
    split
    · next d hd =>
      rw [List.dropWhile_cons_of_pos (isDigit_of_digit? hd)]
      split
      · exact ih _
      · rfl
    · next hd =>
      rw [List.dropWhile_cons_of_neg]
      rw [isDigit_eq_false_of_digit? hd]
      exact Bool.false_ne_true

/-- Whatever digits are taken in, those behind them are the same. -/
theorem dropWhile_takeDigits (acc taken : Nat) (cs : List Char) :
    (takeDigits acc taken cs).2.2.dropWhile isDigit = cs.dropWhile isDigit := by
  induction cs generalizing acc taken with
  | nil => rfl
  | cons c cs ih =>
    rw [takeDigits]
    split
    · next d hd =>
      split
      · rw [ih, List.dropWhile_cons_of_pos (isDigit_of_digit? hd)]
      · rfl
    · rfl

theorem dropWhile_of_head? (h : ¬ cs.head?.any isDigit = true) : cs.dropWhile isDigit = cs := by
  cases cs with
  | nil => rfl
  | cons c cs => exact List.dropWhile_cons_of_neg h

/-- Digits are taken in if there are any. -/
theorem takeDigits_of_head? (h : ¬ cs.head?.any isDigit = true) (acc taken : Nat) :
    takeDigits acc taken cs = (acc, taken, cs) := by
  cases cs with
  | nil => rfl
  | cons c cs =>
    rw [takeDigits]
    split
    · next d hd => exact absurd (isDigit_of_digit? hd) h
    · rfl

section Numbers

variable {negative : Bool} {significand : Nat} {x : Float} {n : Number}

theorem skipExponent_of_scanExponent {start : Int}
    (h : scanExponent negative significand start cs = .ok (x, rest)) :
    skipExponent cs = .ok rest := by
  unfold scanExponent at h
  split at h
  next down mid hsign =>
  have hmid : afterSign cs = mid := by
    split at hsign <;> cases hsign
    · rfl
    · rfl
    · next hplus hminus => exact afterSign_of_ne hplus hminus
  rw [skipExponent_eq, hmid]
  split at h
  · cases h
  · next c more =>
    split at h
    · cases h
    · next d hd =>
      have hdigits := exponentDigits_snd d more
      dsimp only
      rw [if_pos (isDigit_of_digit? hd), ← hdigits]
      split at h
      · next e left hleft =>
        obtain ⟨y, -, h⟩ := exists_of_bind_eq_ok h
        cases h
        rw [hleft]
      · next left hleft =>
        rw [hleft]
        split at h <;> cases h
        rfl

theorem skipTail_of_ne (hlower : ∀ more, cs ≠ 'e' :: more) (hupper : ∀ more, cs ≠ 'E' :: more) :
    skipTail cs = .ok cs := by
  unfold skipTail
  split
  · exact absurd rfl (hlower _)
  · exact absurd rfl (hupper _)
  · rfl

theorem skipAfterWhole_of_ne (hpoint : ∀ more, cs ≠ '.' :: more) :
    skipAfterWhole cs = skipTail cs := by
  unfold skipAfterWhole
  split
  · exact absurd rfl (hpoint _)
  · rfl

theorem skipTail_of_scanTail {exponent : Int}
    (h : scanTail negative significand exponent cs = .ok (x, rest)) : skipTail cs = .ok rest := by
  unfold scanTail at h
  split at h
  · exact skipExponent_of_scanExponent h
  · exact skipExponent_of_scanExponent h
  · next hlower hupper =>
    obtain ⟨y, -, h⟩ := exists_of_bind_eq_ok h
    cases h
    exact skipTail_of_ne hlower hupper

/-- A fraction has at least one digit. -/
theorem skipAfterWhole_of_scanFraction {exponent : Int}
    (h : scanFraction negative significand exponent cs = .ok (x, rest)) :
    skipAfterWhole ('.' :: cs) = .ok rest := by
  unfold scanFraction at h
  have hdigits := dropWhile_takeDigits significand 0 cs
  by_cases hhead : cs.head?.any isDigit = true
  · rw [skipAfterWhole, if_pos hhead]
    split at h
    next acc taken mid htaken =>
    rw [htaken] at hdigits
    dsimp only at hdigits
    rw [← hdigits]
    split at h
    · exact skipTail_of_scanTail h
    · next hmid =>
      rw [dropWhile_of_head? hmid]
      split at h
      · split at h <;> cases h
      · exact skipTail_of_scanTail h
  · rw [takeDigits_of_head? hhead] at h
    dsimp only at h
    rw [if_neg hhead] at h
    simp only [BEq.rfl, if_true] at h
    split at h <;> cases h

theorem skipAfterWhole_of_scanAfterWhole
    (h : scanAfterWhole negative significand cs = .ok (n, rest)) :
    skipAfterWhole cs = .ok rest := by
  unfold scanAfterWhole at h
  split at h
  · obtain ⟨⟨y, mid⟩, hfraction, h⟩ := exists_of_bind_eq_ok h
    cases h
    exact skipAfterWhole_of_scanFraction hfraction
  · obtain ⟨⟨y, mid⟩, hexponent, h⟩ := exists_of_bind_eq_ok h
    cases h
    exact skipExponent_of_scanExponent hexponent
  · obtain ⟨⟨y, mid⟩, hexponent, h⟩ := exists_of_bind_eq_ok h
    cases h
    exact skipExponent_of_scanExponent hexponent
  · next hpoint hlower hupper =>
    cases h
    rw [skipAfterWhole_of_ne hpoint, skipTail_of_ne hlower hupper]

/-- A number that was read can be passed over. -/
theorem skipNumber_of_scanNumber (h : scanNumber negative cs = .ok (n, rest)) :
    skipNumber cs = .ok rest := by
  unfold scanNumber at h
  split at h
  · cases h
  · rw [skipNumber_zero]
    split at h
    · cases h
    · next hhead =>
      rw [if_neg hhead]
      exact skipAfterWhole_of_scanAfterWhole h
  · next c more hzero =>
    split at h
    · cases h
    · next d hd =>
      have hdigits := dropWhile_takeDigits d 0 more
      rw [skipNumber_cons hzero, if_pos (isDigit_of_digit? hd), ← hdigits]
      split at h
      next acc taken left hleft =>
      rw [hleft]
      dsimp only
      split at h
      · -- more digits than fit: those that are left are passed over too
        dsimp only at h
        split at h
        · next tail htail =>
          obtain ⟨⟨y, mid⟩, hfraction, h⟩ := exists_of_bind_eq_ok h
          cases h
          rw [htail]
          exact skipAfterWhole_of_scanFraction hfraction
        · next hpoint =>
          obtain ⟨⟨y, mid⟩, htail, h⟩ := exists_of_bind_eq_ok h
          cases h
          rw [skipAfterWhole_of_ne hpoint]
          exact skipTail_of_scanTail htail
      · next hhead =>
        rw [dropWhile_of_head? hhead]
        exact skipAfterWhole_of_scanAfterWhole h

end Numbers

/-! ## Values

The induction is on the steps of the reader.  The skipper may need more of them, but no more than
two for each character. -/

theorem skipValue_digit {c : Char} {more : List Char} {fuel : Nat}
    (hspace : skipSpace cs = c :: more) (hc : isDigit c = true) :
    skipValue (fuel + 1) cs = skipNumber (c :: more) := by
  rw [skipValue, hspace]
  split
  case h_9 =>
    next h =>
    obtain ⟨rfl, rfl⟩ := List.cons.inj h
    exact if_pos hc
  case h_1 =>
    next h => cases h
  all_goals next h => exact absurd (List.cons.inj h).1 (digit_ne hc (by decide))

mutual

/-- **A value that was read can be passed over.** -/
theorem skipValue_of_readValue {fuel room : Nat} {cs rest : List Char} {v : Json}
    (h : readValue fuel room cs = .ok (v, rest)) (steps : Nat) (hsteps : 2 * cs.length < steps) :
    skipValue steps cs = .ok rest := by
  obtain ⟨steps, rfl⟩ : ∃ n, steps = n + 1 := ⟨steps - 1, by omega⟩
  have hspace : (skipSpace cs).length ≤ cs.length := length_dropWhile_le isSpace cs
  cases fuel with
  | zero => cases h
  | succ fuel =>
    have hreading := reading_of_readValue h
    cases hstart : skipSpace cs with
    | nil =>
      rw [hstart] at hreading
      cases hreading
    | cons c more =>
      rw [hstart] at hreading hspace
      rw [List.length_cons] at hspace
      cases hreading with
      | null hword =>
        rw [skipValue, hstart]
        exact hword
      | true hword =>
        rw [skipValue, hstart]
        exact hword
      | false hword =>
        rw [skipValue, hstart]
        exact hword
      | string hstring =>
        rw [skipValue, hstart]
        exact skipString_of_scanString hstring _ (by omega)
      | negative hnumber =>
        rw [skipValue, hstart]
        exact skipNumber_of_scanNumber hnumber
      | digits hc hnumber =>
        rw [skipValue_digit hstart hc]
        exact skipNumber_of_scanNumber hnumber
      | array hroom hitems =>
        rw [skipValue, hstart]
        exact skipItems_of_readItems hitems _ (by omega)
      | object hroom hentries =>
        rw [skipValue, hstart]
        exact skipEntries_of_readEntries hentries _ (by omega)
termination_by fuel

theorem skipItems_of_readItems {first : Bool} {fuel room : Nat} {cs rest : List Char}
    {items : List Json} (h : readItems first fuel room cs = .ok (items, rest)) (steps : Nat)
    (hsteps : 2 * cs.length + 1 < steps) : skipItems first steps cs = .ok rest := by
  obtain ⟨steps, rfl⟩ : ∃ n, steps = n + 1 := ⟨steps - 1, by omega⟩
  cases items with
  | nil =>
    rw [skipItems, arrayTurn_of_readItems_nil h]
    rfl
  | cons item items =>
    obtain ⟨fewer, mid, behind, rfl, hturn, hitem, hitems⟩ := exists_of_readItems_cons h
    have hmid := length_le_of_arrayTurn hturn
    have hvalue := skipValue_of_readValue hitem steps (by omega)
    have hbehind := length_lt_of_skipValue hvalue
    have hmore := skipItems_of_readItems hitems steps (by omega)
    rw [skipItems, hturn]
    simp only [hvalue, hmore, bind, Except.bind]
termination_by fuel

theorem skipEntries_of_readEntries {first : Bool} {fuel room : Nat} {cs rest : List Char}
    {entries : List (String × Json)} (h : readEntries first fuel room cs = .ok (entries, rest))
    (steps : Nat) (hsteps : 2 * cs.length < steps) : skipEntries first steps cs = .ok rest := by
  obtain ⟨steps, rfl⟩ : ∃ n, steps = n + 1 := ⟨steps - 1, by omega⟩
  cases entries with
  | nil =>
    rw [skipEntries, objectTurn_of_readEntries_nil h]
    rfl
  | cons entry entries =>
    obtain ⟨key, v⟩ := entry
    obtain ⟨fewer, mid, s, behind, value, more, rfl, hturn, hkey, -, hcolon, hvalue, hentries⟩ :=
      exists_of_readEntries_cons h
    have hmid := length_lt_of_objectTurn hturn
    have hkey := skipString_of_scanString hkey steps (by omega)
    have hbehind := length_lt_of_skipString hkey
    have hcolon' := length_lt_of_expectColon hcolon
    have hvalue := skipValue_of_readValue hvalue steps (by omega)
    have hmore := length_lt_of_skipValue hvalue
    have hrest := skipEntries_of_readEntries hentries steps (by omega)
    rw [skipEntries, hturn]
    simp only [hkey, hcolon, hvalue, hrest, bind, Except.bind]
termination_by fuel

end

end DebugCatalog.Json
