import DebugCatalog.Proofs.Json.Values

/-!
# Indented values read back

A value that is laid out on lines is read back like one that is written without blanks: each item
and each entry stands behind the blanks of its line, and a reader passes over those.

* `readValue_layout`: a value is read back from its lines, whatever its level.
* `parse_indented`, `parse_compact`: both layouts of a value denote it.
-/

namespace DebugCatalog.Json

variable {blank : List Char}

/-! ## Blanks -/

def IsBlank (cs : List Char) : Prop :=
  ∀ c ∈ cs, isSpace c = true

theorem skipSpace_append (h : IsBlank blank) (cs : List Char) :
    skipSpace (blank ++ cs) = skipSpace cs :=
  List.dropWhile_append_of_pos h

/-- Blanks in front of an item or a key do not count. -/
theorem arrayTurn_gap (h : IsBlank blank) (first : Bool) (cs : List Char) :
    arrayTurn first ((if first then [] else [',']) ++ (blank ++ cs)) =
      arrayTurn first ((if first then [] else [',']) ++ cs) := by
  cases first with
  | true => rw [if_pos rfl, List.nil_append, List.nil_append, arrayTurn, arrayTurn,
      skipSpace_append h]
  | false =>
    rw [if_neg (by decide), List.cons_append, List.cons_append, List.nil_append, List.nil_append,
      arrayTurn_comma, arrayTurn_comma, skipSpace_append h]

theorem objectTurn_comma (cs : List Char) :
    objectTurn false (',' :: cs) = keyStart (skipSpace cs) := rfl

theorem objectTurn_gap (h : IsBlank blank) (first : Bool) (cs : List Char) :
    objectTurn first ((if first then [] else [',']) ++ (blank ++ cs)) =
      objectTurn first ((if first then [] else [',']) ++ cs) := by
  cases first with
  | true => rw [if_pos rfl, List.nil_append, List.nil_append, objectTurn, objectTurn,
      skipSpace_append h]
  | false =>
    rw [if_neg (by decide), List.cons_append, List.cons_append, List.nil_append, List.nil_append,
      objectTurn_comma, objectTurn_comma, skipSpace_append h]

theorem readValue_append (h : IsBlank blank) (fuel room : Nat) (cs : List Char) :
    readValue fuel room (blank ++ cs) = readValue fuel room cs := by
  cases fuel with
  | zero => rfl
  | succ fuel => rw [readValue, readValue, skipSpace_append h]

theorem isBlank_newline (level : Nat) : IsBlank (newline level) := by
  intro c hc
  rcases List.mem_cons.1 hc with rfl | hc
  · decide
  · rw [List.eq_of_mem_replicate hc]
    decide

/-! ## Lines in front of a closing bracket -/

/-- The items of an array on lines, of which the first follows a comma unless it is the first at
all. -/
def itemLines (first : Bool) (level : Nat) : List Json → List Char
  | [] => []
  | item :: rest =>
    (if first then [] else [',']) ++
      (newline level ++ (layout level item ++ itemLines false level rest))

def entryLines (first : Bool) (level : Nat) : List (String × Json) → List Char
  | [] => []
  | (key, value) :: rest =>
    (if first then [] else [',']) ++
      (newline level ++ (quoted key ++ ':' :: ' ' :: (layout level value ++
        entryLines false level rest)))

theorem layoutItems_eq (level : Nat) (items : List Json) :
    layoutItems level items = itemLines true level items := by
  have hmore : ∀ (item : Json) (rest : List Json), layoutItems level (item :: rest) =
      newline level ++ (layout level item ++ itemLines false level rest) := by
    intro item rest
    induction rest generalizing item with
    | nil => simp [layoutItems, itemLines]
    | cons next rest ih => simp [layoutItems, itemLines, ih]
  cases items with
  | nil => rfl
  | cons item rest => exact hmore item rest

theorem layoutEntries_eq (level : Nat) (entries : List (String × Json)) :
    layoutEntries level entries = entryLines true level entries := by
  have hmore : ∀ (key : String) (value : Json) (rest : List (String × Json)),
      layoutEntries level ((key, value) :: rest) =
        newline level ++ (quoted key ++ ':' :: ' ' :: (layout level value ++
          entryLines false level rest)) := by
    intro key value rest
    induction rest generalizing key value with
    | nil => simp [layoutEntries, entryLines]
    | cons next rest ih => simp [layoutEntries, entryLines, ih]
  cases entries with
  | nil => rfl
  | cons entry rest => exact hmore entry.1 entry.2 rest

theorem layout_array_cons (level : Nat) (item : Json) (items : List Json) :
    layout level (.array (item :: items)) =
      '[' :: (itemLines true (level + 1) (item :: items) ++ (newline level ++ [']'])) := by
  rw [layout, layoutItems_eq, List.append_assoc]
  exact nofun

theorem layout_object_cons (level : Nat) (entry : String × Json) (entries : List (String × Json)) :
    layout level (.object (entry :: entries)) =
      '\x7b' ::
        (entryLines true (level + 1) (entry :: entries) ++ (newline level ++ ['\x7d'])) := by
  rw [layout, layoutEntries_eq, List.append_assoc]
  exact nofun

theorem exists_layout_eq_cons {v : Json} (hv : v.IsWhole) (level : Nat) :
    ∃ c cs, layout level v = c :: cs ∧ StartsValue c := by
  cases v with
  | array items =>
    cases items <;> exact ⟨_, _, rfl, by decide, by decide, by decide⟩
  | object entries =>
    cases entries <;> exact ⟨_, _, rfl, by decide, by decide, by decide⟩
  | _ => exact exists_render_eq_cons hv

theorem arrayTurn_line (first : Bool) {v : Json} (hv : v.IsWhole) (level : Nat) (cs : List Char) :
    arrayTurn first ((if first then [] else [',']) ++ (newline level ++ (layout level v ++ cs))) =
      .ok (.item (layout level v ++ cs)) := by
  obtain ⟨c, tail, htail, hc⟩ := exists_layout_eq_cons hv level
  rw [arrayTurn_gap (isBlank_newline level), htail, List.cons_append]
  exact arrayTurn_starts first hc _

theorem objectTurn_line (first : Bool) (level : Nat) (cs : List Char) :
    objectTurn first ((if first then [] else [',']) ++ (newline level ++ '"' :: cs)) =
      .ok (.item cs) :=
  (objectTurn_gap (isBlank_newline level) first _).trans (objectTurn_key first cs)

theorem breaksNumber_itemLines (level outer : Nat) (items : List Json) (rest : List Char) :
    BreaksNumber (itemLines false level items ++ (newline outer ++ ']' :: rest)) := by
  cases items with
  | nil => exact breaksNumber_cons (by decide) _
  | cons item items => exact breaksNumber_cons (by decide) _

theorem breaksNumber_entryLines (level outer : Nat) (entries : List (String × Json))
    (rest : List Char) :
    BreaksNumber (entryLines false level entries ++ (newline outer ++ '\x7d' :: rest)) := by
  cases entries with
  | nil => exact breaksNumber_cons (by decide) _
  | cons entry entries => exact breaksNumber_cons (by decide) _

theorem entryLines_cons (first : Bool) (level : Nat) (key : String) (value : Json)
    (entries : List (String × Json)) (rest : List Char) :
    entryLines first level ((key, value) :: entries) ++ rest =
      (if first then [] else [',']) ++ (newline level ++ '"' ::
        (key.toList.flatMap escape ++ '"' :: ':' :: ([' '] ++
          (layout level value ++ (entryLines false level entries ++ rest))))) := by
  simp [entryLines, quoted]

theorem layout_length_pos {v : Json} (hv : v.IsWhole) (level : Nat) :
    0 < (layout level v).length := by
  obtain ⟨c, cs, hcs, -⟩ := exists_layout_eq_cons hv level
  rw [hcs]
  exact Nat.succ_pos _

/-! ## Reading what was laid out

As for texts without blanks, the induction is on the value, with the items of an array and the
entries of an object alongside. -/

mutual

/-- **A value is read back from its lines** if it is not too deep. -/
theorem readValue_layout (v : Json) (hv : v.IsWhole) (level fuel room : Nat) (rest : List Char)
    (hfuel : (layout level v).length ≤ fuel) (hrest : BreaksNumber rest) (hdepth : v.depth ≤ room) :
    readValue fuel room (layout level v ++ rest) = .ok (v, rest) := by
  -- a value on one line has the same text in both layouts
  have hplain (h : layout level v = render v) :
      readValue fuel room (layout level v ++ rest) = .ok (v, rest) := by
    rw [h] at hfuel ⊢
    rw [readValue_render v hv fuel room rest hfuel hrest, if_pos hdepth]
  cases v with
  | array items =>
    cases items with
    | nil => exact hplain rfl
    | cons item items =>
      obtain ⟨fuel, rfl⟩ : ∃ n, fuel = n + 1 :=
        ⟨fuel - 1, by have := layout_length_pos hv level; omega⟩
      obtain ⟨room, rfl⟩ : ∃ n, room = n + 1 := ⟨room - 1, by rw [depth] at hdepth; omega⟩
      rw [layout_array_cons, List.length_cons, List.length_append, List.length_append,
        List.length_singleton] at hfuel
      have hitems := readItems_lines true (item :: items) hv (level + 1) level fuel room rest
        (by omega) (Nat.le_of_succ_le_succ hdepth)
      rw [layout_array_cons, List.cons_append, List.append_assoc, List.append_assoc,
        List.singleton_append, readValue, skipSpace_cons (by decide)]
      simp only [hitems, bind, Except.bind]
  | object entries =>
    cases entries with
    | nil => exact hplain rfl
    | cons entry entries =>
      obtain ⟨fuel, rfl⟩ : ∃ n, fuel = n + 1 :=
        ⟨fuel - 1, by have := layout_length_pos hv level; omega⟩
      obtain ⟨room, rfl⟩ : ∃ n, room = n + 1 := ⟨room - 1, by rw [depth] at hdepth; omega⟩
      rw [layout_object_cons, List.length_cons, List.length_append, List.length_append,
        List.length_singleton] at hfuel
      have hentries := readEntries_lines true (entry :: entries) hv (level + 1) level fuel room
        rest (by omega) (Nat.le_of_succ_le_succ hdepth)
      rw [layout_object_cons, List.cons_append, List.append_assoc, List.append_assoc,
        List.singleton_append, readValue, skipSpace_cons (by decide)]
      simp only [hentries, bind, Except.bind]
  | null => exact hplain rfl
  | boolean b => exact hplain rfl
  | number n => exact hplain rfl
  | string s => exact hplain rfl

theorem readItems_lines (first : Bool) (items : List Json) (hitems : AreWhole items)
    (level outer fuel room : Nat) (rest : List Char)
    (hfuel : (itemLines first level items).length < fuel) (hdepth : itemsDepth items ≤ room) :
    readItems first fuel room (itemLines first level items ++ (newline outer ++ ']' :: rest)) =
      .ok (items, rest) := by
  obtain ⟨fuel, rfl⟩ : ∃ n, fuel = n + 1 := ⟨fuel - 1, by omega⟩
  cases items with
  | nil =>
    rw [itemLines, List.nil_append, readItems, arrayTurn, skipSpace_append (isBlank_newline outer)]
    rfl
  | cons item items =>
    obtain ⟨hi, hr⟩ := Nat.max_le.1 hdepth
    have hpos := layout_length_pos hitems.1 level
    rw [itemLines, List.length_append, List.length_append, List.length_append] at hfuel
    have hitem := readValue_layout item hitems.1 level fuel room
      (itemLines false level items ++ (newline outer ++ ']' :: rest)) (by omega)
      (breaksNumber_itemLines level outer items rest) hi
    have hmore := readItems_lines false items hitems.2 level outer fuel room rest (by omega) hr
    rw [itemLines, List.append_assoc, List.append_assoc, List.append_assoc, readItems,
      arrayTurn_line first hitems.1]
    simp only [hitem, hmore, bind, Except.bind]

theorem readEntries_lines (first : Bool) (entries : List (String × Json))
    (hentries : EntriesWhole entries) (level outer fuel room : Nat) (rest : List Char)
    (hfuel : (entryLines first level entries).length < fuel)
    (hdepth : entriesDepth entries ≤ room) :
    readEntries first fuel room
      (entryLines first level entries ++ (newline outer ++ '\x7d' :: rest)) =
        .ok (entries, rest) := by
  obtain ⟨fuel, rfl⟩ : ∃ n, fuel = n + 1 := ⟨fuel - 1, by omega⟩
  cases entries with
  | nil =>
    rw [entryLines, List.nil_append, readEntries, objectTurn,
      skipSpace_append (isBlank_newline outer)]
    rfl
  | cons entry entries =>
    obtain ⟨key, value⟩ := entry
    obtain ⟨hv, hr⟩ := Nat.max_le.1 hdepth
    have hkey := length_lt_quoted key
    simp only [entryLines, List.length_append, List.length_cons] at hfuel
    have hvalue := readValue_layout value hentries.1 level fuel room
      (entryLines false level entries ++ (newline outer ++ '\x7d' :: rest)) (by omega)
      (breaksNumber_entryLines level outer entries rest) hv
    have hmore := readEntries_lines false entries hentries.2 level outer fuel room rest (by omega)
      hr
    have hblank : IsBlank [' '] := by
      rintro c hc
      rw [List.mem_singleton.1 hc]
      decide
    rw [entryLines_cons, readEntries, objectTurn_line]
    simp only [scanString_escaped key.toList fuel (by rw [String.length_toList]; omega),
      expectColon_cons, readValue_append hblank, hvalue, hmore, bind, Except.bind,
      String.ofList_toList]

end

/-! ## Whole texts -/

/-- **Both layouts of a value denote it**, if it is not too deep. -/
theorem parse_indented {v : Json} (hv : v.IsWhole) (hdepth : v.depth ≤ depthLimit) :
    parse v.indented = .ok v := by
  have hread := readValue_layout v hv 0 (2 * (layout 0 v).length + 2) depthLimit [] (by omega) nofun
    hdepth
  rw [List.append_nil] at hread
  rw [parse, readAll, indented, String.toList_ofList]
  simp only [hread, bind, Except.bind]
  rfl

theorem parse_compact {v : Json} (hv : v.IsWhole) (hdepth : v.depth ≤ depthLimit) :
    parse v.compact = .ok v := by
  have hread := readValue_render v hv (2 * (render v).length + 2) depthLimit [] (by omega) nofun
  rw [List.append_nil, if_pos hdepth] at hread
  rw [parse, readAll, compact, String.toList_ofList]
  simp only [hread, bind, Except.bind]
  rfl

end DebugCatalog.Json
