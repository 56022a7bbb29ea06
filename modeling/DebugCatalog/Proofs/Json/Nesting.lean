import DebugCatalog.Proofs.Json.Values
import DebugCatalog.Proofs.Results

/-!
# How deep a text nests

`nesting` is the largest number of brackets that are open at once in a text.  It looks at
single characters and knows of strings only that brackets inside them do not count, so it is
defined for every text, whether it is JSON or not.

A reader that accepts a text meets its brackets in pairs.  `Nests cs rest d` says so of what
stands between `cs` and `rest`, and `Closes cs rest d` of what stands there up to the bracket
that ends an array or object.  Both hold at every level, so they can be put together.

* `nests_of_readValue`: a value that was read nests as deep as its text, and no deeper than
  there was room.
* `nesting_compact`: so a value written without blanks nests as deep as its text.
-/

namespace DebugCatalog.Json

/-! ## Levels -/

/-- Where a character stands: between strings, in a string, or behind a backslash in one. -/
inductive Place where
  | between
  | quoted
  | escaped

/-- The largest number of open brackets from here on, where `level` are open. -/
def deepest : Place → Nat → List Char → Nat
  | _, level, [] => level
  | .between, level, c :: cs =>
    if c = '"' then deepest .quoted level cs
    else if c = '[' ∨ c = '\x7b' then deepest .between (level + 1) cs
    else if c = ']' ∨ c = '\x7d' then max level (deepest .between (level - 1) cs)
    else deepest .between level cs
  | .quoted, level, c :: cs =>
    if c = '"' then deepest .between level cs
    else if c = '\\' then deepest .escaped level cs
    else deepest .quoted level cs
  | .escaped, level, _ :: cs => deepest .quoted level cs

/-- How deep the brackets of a text nest. -/
def nesting (text : String) : Nat :=
  deepest .between 0 text.toList

theorem le_deepest (place : Place) (level : Nat) (cs : List Char) :
    level ≤ deepest place level cs := by
  induction cs generalizing place level with
  | nil => cases place <;> exact Nat.le_refl _
  | cons c cs ih =>
    cases place with
    | between =>
      rw [deepest]
      split
      · exact ih ..
      · split
        · exact (Nat.le_succ level).trans (ih ..)
        · split
          · exact Nat.le_max_left ..
          · exact ih ..
    | quoted =>
      rw [deepest]
      split
      · exact ih ..
      · split <;> exact ih ..
    | escaped => exact ih ..

/-- A character that is no bracket and no quote. -/
def isPlain (c : Char) : Bool :=
  c != '"' && c != '[' && c != '\x7b' && c != ']' && c != '\x7d'

theorem deepest_plain {c : Char} (h : isPlain c = true) (level : Nat) (cs : List Char) :
    deepest .between level (c :: cs) = deepest .between level cs := by
  simp only [isPlain, Bool.and_eq_true, bne_iff_ne] at h
  obtain ⟨⟨⟨⟨hquote, harray⟩, hobject⟩, harrayEnd⟩, hobjectEnd⟩ := h
  rw [deepest, if_neg hquote, if_neg (not_or.2 ⟨harray, hobject⟩),
    if_neg (not_or.2 ⟨harrayEnd, hobjectEnd⟩)]

theorem isPlain_of_isDigit {c : Char} (h : isDigit c = true) : isPlain c = true := by
  simp only [isPlain, Bool.and_eq_true, bne_iff_ne]
  refine ⟨⟨⟨⟨?_, ?_⟩, ?_⟩, ?_⟩, ?_⟩ <;> (rintro rfl; revert h; decide)

theorem isPlain_of_isSpace {c : Char} (h : isSpace c = true) : isPlain c = true := by
  simp only [isPlain, Bool.and_eq_true, bne_iff_ne]
  refine ⟨⟨⟨⟨?_, ?_⟩, ?_⟩, ?_⟩, ?_⟩ <;> (rintro rfl; revert h; decide)

/-! ## Pieces of a text -/

/-- What stands between `cs` and `rest` has its brackets in pairs and nests `d` deep. -/
def Nests (cs rest : List Char) (d : Nat) : Prop :=
  ∀ level, deepest .between level cs = max (level + d) (deepest .between level rest)

/-- What stands between `cs` and `rest` nests `d` deep inside the bracket that it closes. -/
def Closes (cs rest : List Char) (d : Nat) : Prop :=
  ∀ level, deepest .between (level + 1) cs = max (level + 1 + d) (deepest .between level rest)

/-- What stands between `cs` and `rest` is the rest of a string and its closing quote. -/
def Unquotes (cs rest : List Char) : Prop :=
  ∀ level, deepest .quoted level cs = deepest .between level rest

section Pieces

variable {cs mid rest : List Char} {c : Char} {d e : Nat}

theorem Nests.refl (cs : List Char) : Nests cs cs 0 := by
  intro level
  rw [Nat.add_zero, Nat.max_eq_right (le_deepest ..)]

theorem Nests.trans (h : Nests cs mid d) (hrest : Nests mid rest e) : Nests cs rest (max d e) := by
  intro level
  rw [h, hrest]
  omega

/-- What has no brackets adds nothing. -/
theorem Nests.then (h : Nests cs mid 0) (hrest : Nests mid rest d) : Nests cs rest d := by
  have := h.trans hrest
  rwa [Nat.zero_max] at this

theorem Nests.plain (hc : isPlain c = true) (h : Nests cs rest d) : Nests (c :: cs) rest d := by
  intro level
  rw [deepest_plain hc, h]

theorem Nests.closes (h : Nests cs mid d) (hrest : Closes mid rest e) :
    Closes cs rest (max d e) := by
  intro level
  rw [h, hrest]
  omega

theorem Nests.thenCloses (h : Nests cs mid 0) (hrest : Closes mid rest d) : Closes cs rest d := by
  have := h.closes hrest
  rwa [Nat.zero_max] at this

theorem Unquotes.nests (h : Unquotes cs rest) : Nests ('"' :: cs) rest 0 := by
  intro level
  rw [Nat.add_zero, Nat.max_eq_right (le_deepest ..), ← h level]
  rfl

theorem Closes.array (h : Closes cs rest d) : Nests ('[' :: cs) rest (d + 1) := by
  intro level
  rw [Nat.add_comm d 1, ← Nat.add_assoc, ← h level]
  rfl

theorem Closes.object (h : Closes cs rest d) : Nests ('\x7b' :: cs) rest (d + 1) := by
  intro level
  rw [Nat.add_comm d 1, ← Nat.add_assoc, ← h level]
  rfl

theorem closes_array (rest : List Char) : Closes (']' :: rest) rest 0 := fun _ => rfl

theorem closes_object (rest : List Char) : Closes ('\x7d' :: rest) rest 0 := fun _ => rfl

end Pieces

variable {cs rest : List Char}

theorem nests_dropWhile {p : Char → Bool} (hp : ∀ c, p c = true → isPlain c = true)
    (cs : List Char) : Nests cs (cs.dropWhile p) 0 := by
  induction cs with
  | nil => exact .refl []
  | cons c cs ih =>
    rw [List.dropWhile_cons]
    split
    · next hc => exact .plain (hp c hc) ih
    · exact .refl _

theorem nests_skipSpace (cs : List Char) : Nests cs (skipSpace cs) 0 :=
  nests_dropWhile (fun _ => isPlain_of_isSpace) cs

theorem nests_expectWord {ws : List Char} (h : expectWord ws cs = .ok rest)
    (hws : ws.all isPlain = true) : Nests cs rest 0 := by
  induction ws generalizing cs with
  | nil =>
    cases h
    exact .refl _
  | cons w ws ih =>
    obtain ⟨hw, hws⟩ := Bool.and_eq_true_iff.1 (List.all_cons ▸ hws)
    cases cs with
    | nil => cases h
    | cons c cs =>
      rw [expectWord] at h
      split at h
      · next hc => exact .plain (hc ▸ hw) (ih h hws)
      · cases h

/-! ## Strings -/

theorem deepest_quoted {c : Char} (hquote : c ≠ '"') (hback : c ≠ '\\') (level : Nat)
    (cs : List Char) : deepest .quoted level (c :: cs) = deepest .quoted level cs := by
  rw [deepest, if_neg hquote, if_neg hback]

theorem ne_of_hexDigit? {c : Char} {d : Nat} (h : Text.hexDigit? c = some d) :
    c ≠ '"' ∧ c ≠ '\\' := by
  constructor
  · rintro rfl
    cases h
  · rintro rfl
    cases h

theorem deepest_of_hexEscape {n : Nat} (h : hexEscape cs = .ok (n, rest)) (level : Nat) :
    deepest .quoted level cs = deepest .quoted level rest := by
  unfold hexEscape at h
  split at h
  · split at h
    · next ha hb hc hd =>
      cases h
      rw [deepest_quoted (ne_of_hexDigit? ha).1 (ne_of_hexDigit? ha).2,
        deepest_quoted (ne_of_hexDigit? hb).1 (ne_of_hexDigit? hb).2,
        deepest_quoted (ne_of_hexDigit? hc).1 (ne_of_hexDigit? hc).2,
        deepest_quoted (ne_of_hexDigit? hd).1 (ne_of_hexDigit? hd).2]
    · cases h
  · split at h <;> cases h

theorem deepest_of_lowSurrogate {high : Nat} {c : Char} (h : lowSurrogate high cs = .ok (c, rest))
    (level : Nat) : deepest .quoted level cs = deepest .quoted level rest := by
  unfold lowSurrogate at h
  split at h
  · cases h
  · cases h
  · obtain ⟨⟨low, mid⟩, hhex, h⟩ := exists_of_bind_eq_ok h
    dsimp only at h
    split at h
    · obtain ⟨-, rfl⟩ := Prod.mk.inj (Except.ok.inj h)
      exact deepest_of_hexEscape hhex level
    · cases h
  · cases h

theorem deepest_of_unescape {c : Char} (h : unescape cs = .ok (c, rest)) (level : Nat) :
    deepest .escaped level cs = deepest .quoted level rest := by
  unfold unescape at h
  split at h
  case h_10 =>
    obtain ⟨⟨n, mid⟩, hhex, h⟩ := exists_of_bind_eq_ok h
    refine (deepest_of_hexEscape hhex level :).trans ?_
    dsimp only at h
    split at h
    · exact deepest_of_lowSurrogate h level
    · split at h <;> cases h
      rfl
  all_goals cases h
  all_goals rfl

/-- A string ends where the scanner says. -/
theorem unquotes_of_scanString {fuel : Nat} {s : List Char}
    (h : scanString fuel cs = .ok (s, rest)) :
    Unquotes cs rest := by
  intro level
  induction fuel generalizing cs s with
  | zero => cases h
  | succ fuel ih =>
    unfold scanString at h
    split at h
    · cases h
    · cases h
      rfl
    · obtain ⟨⟨c, mid⟩, hescape, h⟩ := exists_of_bind_eq_ok h
      obtain ⟨⟨s, rest⟩, hmore, h⟩ := exists_of_bind_eq_ok h
      cases h
      exact (deepest_of_unescape hescape level).trans (ih hmore)
    · next hquote hback =>
      split at h
      · cases h
      · obtain ⟨⟨s, rest⟩, hmore, h⟩ := exists_of_bind_eq_ok h
        cases h
        rw [deepest_quoted hquote hback]
        exact ih hmore

/-! ## Numbers -/

theorem isPlain_of_digit? {c : Char} {d : Nat} (h : Text.digit? c = some d) : isPlain c = true := by
  obtain ⟨⟨hzero, hnine⟩, -⟩ := Text.digit?_eq_some h
  exact isPlain_of_isDigit (by simp [isDigit, hzero, hnine])

theorem nests_takeDigits (acc taken : Nat) (cs : List Char) :
    Nests cs (takeDigits acc taken cs).2.2 0 := by
  induction cs generalizing acc taken with
  | nil => exact .refl []
  | cons c cs ih =>
    rw [takeDigits]
    split
    · next d hd =>
      split
      · exact .plain (isPlain_of_digit? hd) (ih _ _)
      · exact .refl _
    · exact .refl _

theorem nests_exponentDigits (acc : Nat) (cs : List Char) :
    Nests cs (exponentDigits acc cs).2 0 := by
  induction cs generalizing acc with
  | nil => exact .refl []
  | cons c cs ih =>
    rw [exponentDigits]
    split
    · next d hd =>
      split
      · exact .plain (isPlain_of_digit? hd) (ih _)
      · exact .plain (isPlain_of_digit? hd) (nests_dropWhile (fun _ => isPlain_of_isDigit) cs)
    · exact .refl _

section Numbers

variable {negative : Bool} {significand : Nat} {x : Float} {n : Number}

theorem nests_of_scanExponent {start : Int}
    (h : scanExponent negative significand start cs = .ok (x, rest)) : Nests cs rest 0 := by
  unfold scanExponent at h
  split at h
  next down mid hsign =>
  have hsigned : Nests cs mid 0 := by
    split at hsign <;> cases hsign
    · exact .plain (by decide) (.refl _)
    · exact .plain (by decide) (.refl _)
    · exact .refl _
  refine hsigned.then ?_
  split at h
  · cases h
  · next c more =>
    split at h
    · cases h
    · next d hd =>
      have hdigits := nests_exponentDigits d more
      split at h
      · next e left hleft =>
        rw [hleft] at hdigits
        obtain ⟨y, -, h⟩ := exists_of_bind_eq_ok h
        cases h
        exact .plain (isPlain_of_digit? hd) hdigits
      · next left hleft =>
        rw [hleft] at hdigits
        split at h <;> cases h
        exact .plain (isPlain_of_digit? hd) hdigits

theorem nests_of_scanTail {exponent : Int}
    (h : scanTail negative significand exponent cs = .ok (x, rest)) : Nests cs rest 0 := by
  unfold scanTail at h
  split at h
  · exact .plain (by decide) (nests_of_scanExponent h)
  · exact .plain (by decide) (nests_of_scanExponent h)
  · obtain ⟨y, -, h⟩ := exists_of_bind_eq_ok h
    cases h
    exact .refl cs

theorem nests_of_scanFraction {exponent : Int}
    (h : scanFraction negative significand exponent cs = .ok (x, rest)) : Nests cs rest 0 := by
  unfold scanFraction at h
  have hdigits := nests_takeDigits significand 0 cs
  split at h
  next acc taken mid htaken =>
  rw [htaken] at hdigits
  split at h
  · exact hdigits.then ((nests_dropWhile (fun _ => isPlain_of_isDigit) mid).then
      (nests_of_scanTail h))
  · split at h
    · split at h <;> cases h
    · exact hdigits.then (nests_of_scanTail h)

theorem nests_of_scanAfterWhole (h : scanAfterWhole negative significand cs = .ok (n, rest)) :
    Nests cs rest 0 := by
  unfold scanAfterWhole at h
  split at h
  · obtain ⟨⟨y, mid⟩, hfraction, h⟩ := exists_of_bind_eq_ok h
    cases h
    exact .plain (by decide) (nests_of_scanFraction hfraction)
  · obtain ⟨⟨y, mid⟩, hexponent, h⟩ := exists_of_bind_eq_ok h
    cases h
    exact .plain (by decide) (nests_of_scanExponent hexponent)
  · obtain ⟨⟨y, mid⟩, hexponent, h⟩ := exists_of_bind_eq_ok h
    cases h
    exact .plain (by decide) (nests_of_scanExponent hexponent)
  · cases h
    exact .refl cs

theorem nests_of_scanNumber (h : scanNumber negative cs = .ok (n, rest)) : Nests cs rest 0 := by
  unfold scanNumber at h
  split at h
  · cases h
  · split at h
    · cases h
    · exact .plain (by decide) (nests_of_scanAfterWhole h)
  · next c more _ =>
    split at h
    · cases h
    · next d hd =>
      have hdigits := nests_takeDigits d 0 more
      refine .plain (isPlain_of_digit? hd) ?_
      split at h
      next acc taken left hleft =>
      rw [hleft] at hdigits
      refine hdigits.then ?_
      split at h
      · refine (nests_dropWhile (fun _ => isPlain_of_isDigit) left).then ?_
        dsimp only at h
        split at h
        · next tail htail =>
          obtain ⟨⟨y, mid⟩, hfraction, h⟩ := exists_of_bind_eq_ok h
          cases h
          rw [htail]
          exact .plain (by decide) (nests_of_scanFraction hfraction)
        · obtain ⟨⟨y, mid⟩, htail, h⟩ := exists_of_bind_eq_ok h
          cases h
          exact nests_of_scanTail htail
      · exact nests_of_scanAfterWhole h

end Numbers

/-! ## Values -/

theorem nests_of_arrayTurn {first : Bool} (h : arrayTurn first cs = .ok (.item rest)) :
    Nests cs rest 0 := by
  unfold arrayTurn at h
  refine (nests_skipSpace cs).then ?_
  split at h
  · cases h
  · cases h
  · next more heq =>
    rw [heq]
    split at h
    · cases h
      exact .refl _
    · refine .plain (by decide) ((nests_skipSpace more).then ?_)
      split at h <;> cases h
      exact .refl _
  · split at h <;> cases h
    exact .refl _

theorem closes_of_arrayTurn {first : Bool} (h : arrayTurn first cs = .ok (.close rest)) :
    Closes cs rest 0 := by
  unfold arrayTurn at h
  refine (nests_skipSpace cs).thenCloses ?_
  split at h
  · cases h
  · next heq =>
    cases h
    rw [heq]
    exact closes_array rest
  · split at h
    · cases h
    · split at h <;> cases h
  · split at h <;> cases h

theorem eq_of_keyStart (h : keyStart cs = .ok (.item rest)) : cs = '"' :: rest := by
  unfold keyStart at h
  split at h <;> cases h
  rfl

theorem ne_close_of_keyStart : keyStart cs ≠ .ok (.close rest) := by
  unfold keyStart
  split <;> exact nofun

/-- Between a key's quote and what was before is nothing but blanks and a comma. -/
theorem nests_of_objectTurn {first : Bool} (h : objectTurn first cs = .ok (.item rest)) :
    Nests cs ('"' :: rest) 0 := by
  unfold objectTurn at h
  refine (nests_skipSpace cs).then ?_
  split at h
  · cases h
  · cases h
  · next more heq =>
    rw [heq]
    split at h
    · cases h
    · refine .plain (by decide) ((nests_skipSpace more).then ?_)
      rw [eq_of_keyStart h]
      exact .refl _
  · split at h
    · rw [eq_of_keyStart h]
      exact .refl _
    · cases h

theorem closes_of_objectTurn {first : Bool} (h : objectTurn first cs = .ok (.close rest)) :
    Closes cs rest 0 := by
  unfold objectTurn at h
  refine (nests_skipSpace cs).thenCloses ?_
  split at h
  · cases h
  · next heq =>
    cases h
    rw [heq]
    exact closes_object rest
  · split at h
    · cases h
    · exact absurd h ne_close_of_keyStart
  · split at h
    · exact absurd h ne_close_of_keyStart
    · cases h

theorem nests_of_expectColon (h : expectColon cs = .ok rest) : Nests cs rest 0 := by
  unfold expectColon at h
  refine (nests_skipSpace cs).then ?_
  split at h
  · cases h
  · next heq =>
    cases h
    rw [heq]
    exact .plain (by decide) (.refl _)
  · cases h

/-- A key with its quotes, and the colon behind it. -/
theorem nests_of_key {fuel : Nat} {first : Bool} {mid behind : List Char} {key : List Char}
    (hturn : objectTurn first cs = .ok (.item mid)) (hkey : scanString fuel mid = .ok (key, behind))
    (hcolon : expectColon behind = .ok rest) : Nests cs rest 0 :=
  ((nests_of_objectTurn hturn).then (unquotes_of_scanString hkey).nests).then
    (nests_of_expectColon hcolon)

theorem nests_of_readScalar {fuel : Nat} {v : Json} (h : readScalar fuel cs = .ok (v, rest)) :
    Nests cs rest 0 ∧ v.depth = 0 := by
  unfold readScalar at h
  split at h
  · cases h
  · obtain ⟨mid, hword, h⟩ := exists_of_bind_eq_ok h
    cases h
    exact ⟨.plain (by decide) (nests_expectWord hword (by decide)), rfl⟩
  · obtain ⟨mid, hword, h⟩ := exists_of_bind_eq_ok h
    cases h
    exact ⟨.plain (by decide) (nests_expectWord hword (by decide)), rfl⟩
  · obtain ⟨mid, hword, h⟩ := exists_of_bind_eq_ok h
    cases h
    exact ⟨.plain (by decide) (nests_expectWord hword (by decide)), rfl⟩
  · obtain ⟨⟨s, mid⟩, hstring, h⟩ := exists_of_bind_eq_ok h
    cases h
    exact ⟨(unquotes_of_scanString hstring).nests, rfl⟩
  · obtain ⟨⟨n, mid⟩, hnumber, h⟩ := exists_of_bind_eq_ok h
    cases h
    exact ⟨.plain (by decide) (nests_of_scanNumber hnumber), rfl⟩
  · split at h
    · obtain ⟨⟨n, mid⟩, hnumber, h⟩ := exists_of_bind_eq_ok h
      cases h
      exact ⟨nests_of_scanNumber hnumber, rfl⟩
    · cases h

theorem refuse_ne_ok {α : Type} {expected : String} {fuel : Nat} {a : α} :
    (refuse expected fuel cs : Except Fault α) ≠ .ok a := by
  intro h
  obtain ⟨found, -, h⟩ := exists_of_bind_eq_ok h
  cases h

theorem nests_of_readText {expected : String} {fuel room : Nat} {s : String}
    (h : readText expected fuel room cs = .ok (s, rest)) : Nests cs rest 0 := by
  unfold readText at h
  refine (nests_skipSpace cs).then ?_
  split at h
  · next more heq =>
    obtain ⟨⟨chars, mid⟩, hstring, h⟩ := exists_of_bind_eq_ok h
    cases h
    rw [heq]
    exact (unquotes_of_scanString hstring).nests
  · exact absurd h refuse_ne_ok

/-! The induction is on the steps that a reader may use.  What is inside an array or object
has one level of room less. -/

mutual

/-- **A value that was read nests as deep as its text**, and there was room for it. -/
theorem nests_of_readValue {fuel room : Nat} {cs rest : List Char} {v : Json}
    (h : readValue fuel room cs = .ok (v, rest)) : Nests cs rest v.depth ∧ v.depth ≤ room := by
  cases fuel with
  | zero => cases h
  | succ fuel =>
    rw [readValue] at h
    have hspace := nests_skipSpace cs
    split at h
    · next more heq =>
      rw [heq] at hspace
      cases room with
      | zero => cases h
      | succ room =>
        obtain ⟨⟨items, mid⟩, hitems, h⟩ := exists_of_bind_eq_ok h
        cases h
        obtain ⟨hcloses, hroom⟩ := closes_of_readItems hitems
        rw [depth]
        exact ⟨hspace.then hcloses.array, Nat.succ_le_succ hroom⟩
    · next more heq =>
      rw [heq] at hspace
      cases room with
      | zero => cases h
      | succ room =>
        obtain ⟨⟨entries, mid⟩, hentries, h⟩ := exists_of_bind_eq_ok h
        cases h
        obtain ⟨hcloses, hroom⟩ := closes_of_readEntries hentries
        rw [depth]
        exact ⟨hspace.then hcloses.object, Nat.succ_le_succ hroom⟩
    · obtain ⟨hscalar, hdepth⟩ := nests_of_readScalar h
      rw [hdepth]
      exact ⟨hspace.then hscalar, Nat.zero_le _⟩
termination_by fuel

theorem closes_of_readItems {first : Bool} {fuel room : Nat} {cs rest : List Char}
    {items : List Json} (h : readItems first fuel room cs = .ok (items, rest)) :
    Closes cs rest (itemsDepth items) ∧ itemsDepth items ≤ room := by
  cases fuel with
  | zero => cases h
  | succ fuel =>
    rw [readItems] at h
    obtain ⟨turn, hturn, h⟩ := exists_of_bind_eq_ok h
    cases turn with
    | close mid =>
      cases h
      exact ⟨closes_of_arrayTurn hturn, Nat.zero_le _⟩
    | item mid =>
      obtain ⟨⟨item, behind⟩, hitem, h⟩ := exists_of_bind_eq_ok h
      obtain ⟨⟨items, last⟩, hitems, h⟩ := exists_of_bind_eq_ok h
      cases h
      obtain ⟨hnests, hroom⟩ := nests_of_readValue hitem
      obtain ⟨hcloses, hroom'⟩ := closes_of_readItems hitems
      exact ⟨(nests_of_arrayTurn hturn).thenCloses (hnests.closes hcloses),
        Nat.max_le.2 ⟨hroom, hroom'⟩⟩
termination_by fuel

theorem closes_of_readEntries {first : Bool} {fuel room : Nat} {cs rest : List Char}
    {entries : List (String × Json)} (h : readEntries first fuel room cs = .ok (entries, rest)) :
    Closes cs rest (entriesDepth entries) ∧ entriesDepth entries ≤ room := by
  cases fuel with
  | zero => cases h
  | succ fuel =>
    rw [readEntries] at h
    obtain ⟨turn, hturn, h⟩ := exists_of_bind_eq_ok h
    cases turn with
    | close mid =>
      cases h
      exact ⟨closes_of_objectTurn hturn, Nat.zero_le _⟩
    | item mid =>
      obtain ⟨⟨key, behind⟩, hkey, h⟩ := exists_of_bind_eq_ok h
      obtain ⟨value, hcolon, h⟩ := exists_of_bind_eq_ok h
      obtain ⟨⟨v, more⟩, hvalue, h⟩ := exists_of_bind_eq_ok h
      obtain ⟨⟨entries, last⟩, hentries, h⟩ := exists_of_bind_eq_ok h
      cases h
      obtain ⟨hnests, hroom⟩ := nests_of_readValue hvalue
      obtain ⟨hcloses, hroom'⟩ := closes_of_readEntries hentries
      exact ⟨(nests_of_key hturn hkey hcolon).thenCloses (hnests.closes hcloses),
        Nat.max_le.2 ⟨hroom, hroom'⟩⟩
termination_by fuel

end

/-! ## Whole texts -/

/-- A text nests as deep as what was read of it, if nothing but blanks is left. -/
theorem nesting_eq_of_nests {text : String} {d : Nat} (h : Nests text.toList rest d)
    (hrest : (skipSpace rest).isEmpty = true) : nesting text = d := by
  have hblank := nests_skipSpace rest
  rw [List.isEmpty_iff.1 hrest] at hblank
  have htext := (h.trans hblank) 0
  rw [nesting, htext, deepest, Nat.zero_add, Nat.max_zero, Nat.max_zero]

/-- A value written without blanks nests as deep as its text. -/
theorem nesting_compact {v : Json} (hv : v.IsWhole) : nesting v.compact = v.depth := by
  have hread := readValue_render v hv (render v).length v.depth [] (Nat.le_refl _) nofun
  rw [if_pos (Nat.le_refl _), List.append_nil] at hread
  have hnests : Nests v.compact.toList [] v.depth := by
    rw [compact, String.toList_ofList]
    exact (nests_of_readValue hread).1
  exact nesting_eq_of_nests hnests rfl

end DebugCatalog.Json
