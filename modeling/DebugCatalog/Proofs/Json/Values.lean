import DebugCatalog.Json.Reader
import DebugCatalog.Proofs.Json.Tokens

/-!
# Values read back

`readValue_render` says what the reader makes of a value that was written
without blanks: the value itself, if it nests no deeper than there is room, and
otherwise a malformed text.  It is one equation, so it says both when reading
succeeds and when it fails.

The value must have no fractions (`IsWhole`).  Types and records have none, and
of a fraction the writer gives the shortest digits only.

Inside an array or object the reader is at the first item or behind another
one.  `itemsText` and `entriesText` are what is left to read at either point.
-/

namespace DebugCatalog.Json

/-! ## Values without fractions -/

mutual

/-- Every number in the value is a word. -/
def IsWhole : Json → Prop
  | .number (.natural _) => True
  | .number _ => False
  | .array items => AreWhole items
  | .object entries => EntriesWhole entries
  | _ => True

def AreWhole : List Json → Prop
  | [] => True
  | item :: rest => item.IsWhole ∧ AreWhole rest

def EntriesWhole : List (String × Json) → Prop
  | [] => True
  | (_, value) :: rest => value.IsWhole ∧ EntriesWhole rest

end

/-! ## Texts in front of a closing bracket -/

/-- The items of an array, of which the first follows a comma unless it is the first at all. -/
def itemsText (first : Bool) : List Json → List Char
  | [] => []
  | item :: rest => (if first then [] else [',']) ++ (render item ++ itemsText false rest)

def entriesText (first : Bool) : List (String × Json) → List Char
  | [] => []
  | (key, value) :: rest =>
    (if first then [] else [',']) ++ (quoted key ++ ':' :: (render value ++ entriesText false rest))

theorem renderItems_eq (items : List Json) : renderItems items = itemsText true items := by
  have hmore : ∀ (item : Json) (rest : List Json),
      renderItems (item :: rest) = render item ++ itemsText false rest := by
    intro item rest
    induction rest generalizing item with
    | nil => simp [renderItems, itemsText]
    | cons next rest ih => simp [renderItems, itemsText, ih]
  cases items with
  | nil => rfl
  | cons item rest => exact hmore item rest

theorem renderEntries_eq (entries : List (String × Json)) :
    renderEntries entries = entriesText true entries := by
  have hmore : ∀ (key : String) (value : Json) (rest : List (String × Json)),
      renderEntries ((key, value) :: rest) =
        quoted key ++ ':' :: (render value ++ entriesText false rest) := by
    intro key value rest
    induction rest generalizing key value with
    | nil => simp [renderEntries, entriesText]
    | cons next rest ih => simp [renderEntries, entriesText, ih]
  cases entries with
  | nil => rfl
  | cons entry rest => exact hmore entry.1 entry.2 rest

/-- A character with which a value begins and nothing else. -/
structure StartsValue (c : Char) : Prop where
  not_space : isSpace c = false
  not_close : c ≠ ']'
  not_comma : c ≠ ','

theorem startsValue_of_isDigit {c : Char} (h : isDigit c = true) : StartsValue c := by
  refine ⟨?_, ?_, ?_⟩
  · simp only [isSpace, Bool.or_eq_false_iff, beq_eq_false_iff_ne]
    refine ⟨⟨⟨?_, ?_⟩, ?_⟩, ?_⟩ <;> (rintro rfl; revert h; decide)
  · rintro rfl; revert h; decide
  · rintro rfl; revert h; decide

theorem exists_render_eq_cons {v : Json} (hv : v.IsWhole) :
    ∃ c cs, render v = c :: cs ∧ StartsValue c := by
  cases v with
  | null => exact ⟨_, _, rfl, by decide, by decide, by decide⟩
  | boolean b => cases b <;> exact ⟨_, _, rfl, by decide, by decide, by decide⟩
  | string s => exact ⟨_, _, rfl, by decide, by decide, by decide⟩
  | array items => exact ⟨_, _, rfl, by decide, by decide, by decide⟩
  | object entries => exact ⟨_, _, rfl, by decide, by decide, by decide⟩
  | number n =>
    cases n with
    | natural w =>
      obtain ⟨c, ds, hds⟩ : ∃ c ds, Text.decimal w.toNat = c :: ds :=
        List.exists_cons_of_ne_nil Nat.toDigits_ne_nil
      refine ⟨c, ds, hds, startsValue_of_isDigit ?_⟩
      exact isDigit_of_mem_decimal (hds ▸ List.mem_cons_self ..)
    | negative n => exact hv.elim
    | floating x => exact hv.elim

theorem render_length_pos {v : Json} (hv : v.IsWhole) : 0 < (render v).length := by
  obtain ⟨c, cs, hcs, -⟩ := exists_render_eq_cons hv
  rw [hcs]
  exact Nat.succ_pos _

theorem skipSpace_cons {c : Char} (h : isSpace c = false) (cs : List Char) :
    skipSpace (c :: cs) = c :: cs := by
  rw [skipSpace, List.dropWhile_cons, h]
  rfl

theorem arrayTurn_comma (cs : List Char) :
    arrayTurn false (',' :: cs) =
      match skipSpace cs with
      | [] => .error .truncated
      | ']' :: _ => .error .malformed
      | cs => .ok (.item cs) := rfl

theorem arrayTurn_starts (first : Bool) {c : Char} (hc : StartsValue c) (cs : List Char) :
    arrayTurn first ((if first then [] else [',']) ++ c :: cs) = .ok (.item (c :: cs)) := by
  cases first with
  | true =>
    rw [if_pos rfl, List.nil_append, arrayTurn, skipSpace_cons hc.not_space]
    split
    · next heq => cases heq
    · next heq => exact absurd (List.cons.inj heq).1 hc.not_close
    · next heq => exact absurd (List.cons.inj heq).1 hc.not_comma
    · rfl
  | false =>
    rw [if_neg (by decide), List.cons_append, List.nil_append, arrayTurn_comma,
      skipSpace_cons hc.not_space]
    split
    · next heq => cases heq
    · next heq => exact absurd (List.cons.inj heq).1 hc.not_close
    · next heq => rfl

theorem arrayTurn_item (first : Bool) {v : Json} (hv : v.IsWhole) (cs : List Char) :
    arrayTurn first ((if first then [] else [',']) ++ (render v ++ cs)) =
      .ok (.item (render v ++ cs)) := by
  obtain ⟨c, tail, htail, hc⟩ := exists_render_eq_cons hv
  rw [htail, List.cons_append]
  exact arrayTurn_starts first hc _

theorem objectTurn_key (first : Bool) (cs : List Char) :
    objectTurn first ((if first then [] else [',']) ++ '"' :: cs) = .ok (.item cs) := by
  cases first <;> rfl

/-! ## Reading what was written -/

theorem readValue_scalar {c : Char} (hspace : isSpace c = false) (hsquare : c ≠ '[')
    (hcurly : c ≠ '\x7b') (fuel room : Nat) (cs : List Char) :
    readValue (fuel + 1) room (c :: cs) = readScalar fuel (c :: cs) := by
  rw [readValue, skipSpace_cons hspace]
  split
  · next heq => exact absurd (List.cons.inj heq).1 hsquare
  · next heq => exact absurd (List.cons.inj heq).1 hcurly
  · rfl

theorem digit_ne {c d : Char} (h : isDigit c = true) (hd : isDigit d = false) : c ≠ d := by
  rintro rfl
  rw [h] at hd
  cases hd

theorem readValue_number (w : UInt64) (fuel room : Nat) (rest : List Char)
    (hrest : BreaksNumber rest) :
    readValue (fuel + 1) room (Text.decimal w.toNat ++ rest) = .ok (.natural w, rest) := by
  have hscan := scanNumber_decimal w hrest
  obtain ⟨c, ds, hds⟩ : ∃ c ds, Text.decimal w.toNat = c :: ds :=
    List.exists_cons_of_ne_nil Nat.toDigits_ne_nil
  have hc : isDigit c = true := isDigit_of_mem_decimal (hds ▸ List.mem_cons_self ..)
  rw [hds, List.cons_append] at hscan ⊢
  rw [readValue_scalar (startsValue_of_isDigit hc).not_space (digit_ne hc (by decide))
    (digit_ne hc (by decide)), readScalar, if_pos hc, hscan]
  · rfl
  all_goals exact digit_ne hc (by decide)

theorem readValue_string (s : String) (fuel room : Nat) (hfuel : s.length < fuel)
    (rest : List Char) :
    readValue (fuel + 1) room (quoted s ++ rest) = .ok (.string s, rest) := by
  rw [quoted, List.cons_append, List.append_assoc, List.cons_append, List.nil_append,
    readValue_scalar (by decide) (by decide) (by decide), readScalar,
    scanString_escaped _ _ (by rwa [String.length_toList])]
  simp [bind, Except.bind]

theorem escape_length_pos (c : Char) : 0 < (escape c).length := by
  unfold escape
  split <;> first | exact Nat.succ_pos _ | (split <;> exact Nat.succ_pos _)

theorem length_lt_quoted (s : String) : s.length + 1 < (quoted s).length := by
  have hle : ∀ cs : List Char, cs.length ≤ (cs.flatMap escape).length := by
    intro cs
    induction cs with
    | nil => exact Nat.le_refl 0
    | cons c cs ih =>
      have := escape_length_pos c
      rw [List.flatMap_cons, List.length_append, List.length_cons]
      omega
  have := hle s.toList
  rw [String.length_toList] at this
  simp only [quoted, List.length_cons, List.length_append, List.length_nil]
  omega

theorem breaksNumber_itemsText (items : List Json) (rest : List Char) :
    BreaksNumber (itemsText false items ++ ']' :: rest) := by
  cases items with
  | nil => exact breaksNumber_cons (by decide) rest
  | cons item items => exact breaksNumber_cons (by decide) _

theorem breaksNumber_entriesText (entries : List (String × Json)) (rest : List Char) :
    BreaksNumber (entriesText false entries ++ '\x7d' :: rest) := by
  cases entries with
  | nil => exact breaksNumber_cons (by decide) rest
  | cons entry entries => exact breaksNumber_cons (by decide) _

theorem entriesText_cons (first : Bool) (key : String) (value : Json)
    (entries : List (String × Json)) (rest : List Char) :
    entriesText first ((key, value) :: entries) ++ '\x7d' :: rest =
      (if first then [] else [',']) ++ '"' :: (key.toList.flatMap escape ++ '"' :: ':' ::
        (render value ++ (entriesText false entries ++ '\x7d' :: rest))) := by
  simp [entriesText, quoted]

theorem expectColon_cons (cs : List Char) : expectColon (':' :: cs) = .ok cs := rfl

/-! The induction is on the value, with the items of an array and the entries of
an object alongside.  Every text is longer than what is inside it, so its length
bounds the steps throughout. -/

mutual

/-- **A value is read back from its text exactly when it is not too deep.** -/
theorem readValue_render (v : Json) (hv : v.IsWhole) (fuel room : Nat) (rest : List Char)
    (hfuel : (render v).length ≤ fuel) (hrest : BreaksNumber rest) :
    readValue fuel room (render v ++ rest) =
      if v.depth ≤ room then .ok (v, rest) else .error .malformed := by
  obtain ⟨fuel, rfl⟩ : ∃ n, fuel = n + 1 :=
    ⟨fuel - 1, by have := render_length_pos hv; omega⟩
  cases v with
  | null => rfl
  | boolean b => cases b <;> rfl
  | number n =>
    cases n with
    | natural w => exact readValue_number w fuel room rest hrest
    | negative n => exact hv.elim
    | floating x => exact hv.elim
  | string s =>
    have hlen := length_lt_quoted s
    rw [render] at hfuel
    exact readValue_string s fuel room (by omega) rest
  | array items =>
    rw [render, renderItems_eq, List.length_cons, List.length_append,
      List.length_singleton] at hfuel
    rw [render, renderItems_eq, List.cons_append, List.append_assoc, List.cons_append,
      List.nil_append, readValue, skipSpace_cons (by decide), depth]
    cases room with
    | zero => rfl
    | succ room =>
      have hread := readItems_text true items hv fuel room rest (by omega)
      simp only [hread, Nat.add_le_add_iff_right]
      split <;> rfl
  | object entries =>
    rw [render, renderEntries_eq, List.length_cons, List.length_append,
      List.length_singleton] at hfuel
    rw [render, renderEntries_eq, List.cons_append, List.append_assoc, List.cons_append,
      List.nil_append, readValue, skipSpace_cons (by decide), depth]
    cases room with
    | zero => rfl
    | succ room =>
      have hread := readEntries_text true entries hv fuel room rest (by omega)
      simp only [hread, Nat.add_le_add_iff_right]
      split <;> rfl

theorem readItems_text (first : Bool) (items : List Json) (hitems : AreWhole items)
    (fuel room : Nat) (rest : List Char) (hfuel : (itemsText first items).length < fuel) :
    readItems first fuel room (itemsText first items ++ ']' :: rest) =
      if itemsDepth items ≤ room then .ok (items, rest) else .error .malformed := by
  obtain ⟨fuel, rfl⟩ : ∃ n, fuel = n + 1 := ⟨fuel - 1, by omega⟩
  cases items with
  | nil => rfl
  | cons item items =>
    have hpos := render_length_pos hitems.1
    rw [itemsText, List.length_append, List.length_append] at hfuel
    have hitem := readValue_render item hitems.1 fuel room
      (itemsText false items ++ ']' :: rest) (by omega) (breaksNumber_itemsText items rest)
    have hmore := readItems_text false items hitems.2 fuel room rest (by omega)
    rw [itemsText, List.append_assoc, List.append_assoc, readItems, arrayTurn_item first hitems.1]
    simp only [hitem, itemsDepth, Nat.max_le, bind, Except.bind]
    by_cases hi : item.depth ≤ room
    · by_cases hr : itemsDepth items ≤ room
      · simp only [if_pos hi, hmore, if_pos hr, if_pos (And.intro hi hr)]
      · simp only [if_pos hi, hmore, if_neg hr, if_neg (fun h : _ ∧ _ => hr h.2)]
    · simp only [if_neg hi, if_neg (fun h : _ ∧ _ => hi h.1)]

theorem readEntries_text (first : Bool) (entries : List (String × Json))
    (hentries : EntriesWhole entries) (fuel room : Nat) (rest : List Char)
    (hfuel : (entriesText first entries).length < fuel) :
    readEntries first fuel room (entriesText first entries ++ '\x7d' :: rest) =
      if entriesDepth entries ≤ room then .ok (entries, rest) else .error .malformed := by
  obtain ⟨fuel, rfl⟩ : ∃ n, fuel = n + 1 := ⟨fuel - 1, by omega⟩
  cases entries with
  | nil => rfl
  | cons entry entries =>
    obtain ⟨key, value⟩ := entry
    have hkey := length_lt_quoted key
    rw [entriesText, List.length_append, List.length_append, List.length_cons,
      List.length_append] at hfuel
    have hvalue := readValue_render value hentries.1 fuel room
      (entriesText false entries ++ '\x7d' :: rest) (by omega)
      (breaksNumber_entriesText entries rest)
    have hmore := readEntries_text false entries hentries.2 fuel room rest (by omega)
    rw [entriesText_cons, readEntries, objectTurn_key]
    simp only [scanString_escaped key.toList fuel (by rw [String.length_toList]; omega),
      expectColon_cons, hvalue, entriesDepth, Nat.max_le, bind, Except.bind]
    by_cases hv : value.depth ≤ room
    · by_cases hr : entriesDepth entries ≤ room
      · simp only [if_pos hv, hmore, if_pos hr, if_pos (And.intro hv hr), String.ofList_toList]
      · simp only [if_pos hv, hmore, if_neg hr, if_neg (fun h : _ ∧ _ => hr h.2)]
    · simp only [if_neg hv, if_neg (fun h : _ ∧ _ => hv h.1)]

end

end DebugCatalog.Json
