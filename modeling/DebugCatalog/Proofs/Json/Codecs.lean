import DebugCatalog.Json.Record
import DebugCatalog.Proofs.Json.Values

/-!
# Readers of a kind

A reader that asks for a value of a given kind takes it back from the text of that
value.  `Reads scan v a` says so: `scan` makes `a` of the text of `v`, leaves what
follows alone, and refuses the text exactly if `v` nests deeper than there is room.

There is one law for each way of building a reader: `reads_string`, `reads_word`,
`Reads.list`, `Reads.pair`, and `Reads.record` for records written as objects.
`Reads.readAll` is the law of a whole text.
-/

namespace DebugCatalog.Json

variable {α β σ : Type}

/-- The scan takes `a` back from the text of `v`, exactly if there is room for `v`. -/
structure Reads (scan : Scan α) (v : Json) (a : α) : Prop where
  isWhole : v.IsWhole
  read : ∀ (fuel room : Nat) (rest : List Char), (render v).length ≤ fuel → BreaksNumber rest →
    scan fuel room (render v ++ rest) = if v.depth ≤ room then .ok (a, rest) else .error .malformed

/-! ## Strings and words -/

theorem reads_string (s : String) : Reads readString (.string s) s where
  isWhole := trivial
  read := by
    intro fuel room rest hfuel _
    have hlen := length_lt_quoted s
    rw [render] at hfuel
    have hscan := scanString_escaped s.toList fuel (by rw [String.length_toList]; omega) rest
    rw [render, quoted, List.cons_append, List.append_assoc, List.cons_append, List.nil_append,
      readString, readText, skipSpace_cons (by decide)]
    simp only [hscan, bind, Except.bind, String.ofList_toList]
    rfl

theorem reads_word (w : UInt64) : Reads readWord (.natural w) w where
  isWhole := trivial
  read := by
    intro fuel room rest _ hrest
    have hscan := scanNumber_decimal w hrest
    obtain ⟨c, ds, hds⟩ : ∃ c ds, Text.decimal w.toNat = c :: ds :=
      List.exists_cons_of_ne_nil Nat.toDigits_ne_nil
    have hc : isDigit c = true := isDigit_of_mem_decimal (hds ▸ List.mem_cons_self ..)
    have htext : render (.natural w) = c :: ds := hds
    rw [hds, List.cons_append] at hscan
    rw [htext, List.cons_append, readWord, skipSpace_cons (startsValue_of_isDigit hc).not_space]
    split
    · next heq => exact absurd (List.cons.inj heq).1 (digit_ne hc (by decide))
    · next heq =>
      obtain ⟨rfl, rfl⟩ := List.cons.inj heq
      rw [if_pos hc]
      simp only [hscan, bind, Except.bind, Number.word?]
      rfl
    · next heq => cases heq

/-! ## Lists and pairs -/

theorem readListItems_text {scan : Scan α} {toJson : α → Json} {xs : List α}
    (h : ∀ x ∈ xs, Reads scan (toJson x) x) (first : Bool) (fuel room : Nat) (rest : List Char)
    (hfuel : (itemsText first (xs.map toJson)).length < fuel) :
    readListItems scan first fuel room (itemsText first (xs.map toJson) ++ ']' :: rest) =
      if itemsDepth (xs.map toJson) ≤ room then .ok (xs, rest) else .error .malformed := by
  induction xs generalizing first fuel with
  | nil =>
    obtain ⟨fuel, rfl⟩ : ∃ n, fuel = n + 1 := ⟨fuel - 1, by omega⟩
    rfl
  | cons x xs ih =>
    obtain ⟨fuel, rfl⟩ : ∃ n, fuel = n + 1 := ⟨fuel - 1, by omega⟩
    obtain ⟨hx, hxs⟩ := List.forall_mem_cons.1 h
    have hpos := render_length_pos hx.isWhole
    rw [List.map_cons, itemsText, List.length_append, List.length_append] at hfuel
    have hitem := hx.read fuel room (itemsText false (xs.map toJson) ++ ']' :: rest) (by omega)
      (breaksNumber_itemsText _ rest)
    have hmore := ih hxs false fuel (by omega)
    rw [List.map_cons, itemsText, List.append_assoc, List.append_assoc, readListItems,
      arrayTurn_item first hx.isWhole]
    simp only [hitem, itemsDepth, Nat.max_le, bind, Except.bind]
    by_cases hi : (toJson x).depth ≤ room
    · by_cases hr : itemsDepth (xs.map toJson) ≤ room
      · simp only [if_pos hi, hmore, if_pos hr, if_pos (And.intro hi hr)]
      · simp only [if_pos hi, hmore, if_neg hr, if_neg (fun h : _ ∧ _ => hr h.2)]
    · simp only [if_neg hi, if_neg (fun h : _ ∧ _ => hi h.1)]

theorem areWhole_map {scan : Scan α} {toJson : α → Json} {xs : List α}
    (h : ∀ x ∈ xs, Reads scan (toJson x) x) : AreWhole (xs.map toJson) := by
  induction xs with
  | nil => exact trivial
  | cons x xs ih =>
    obtain ⟨hx, hxs⟩ := List.forall_mem_cons.1 h
    exact ⟨hx.isWhole, ih hxs⟩

/-- A list is read if each of its items is. -/
theorem Reads.list {scan : Scan α} {toJson : α → Json} {xs : List α}
    (h : ∀ x ∈ xs, Reads scan (toJson x) x) :
    Reads (readList scan) (.array (xs.map toJson)) xs where
  isWhole := areWhole_map h
  read := by
    intro fuel room rest hfuel _
    rw [render, renderItems_eq, List.length_cons, List.length_append,
      List.length_singleton] at hfuel
    rw [render, renderItems_eq, List.cons_append, List.append_assoc, List.cons_append,
      List.nil_append, readList, skipSpace_cons (by decide), depth]
    cases room with
    | zero => rfl
    | succ room =>
      have hitems := readListItems_text h true fuel room rest (by omega)
      simp only [hitems, Nat.add_le_add_iff_right]

/-- A pair is written as an array of two. -/
theorem Reads.pair {left : Scan α} {right : Scan β} {v w : Json} {a : α} {b : β}
    (hleft : Reads left v a) (hright : Reads right w b) :
    Reads (readPair left right) (.array [v, w]) (a, b) where
  isWhole := ⟨hleft.isWhole, hright.isWhole, trivial⟩
  read := by
    intro fuel room rest hfuel _
    have htext : render (.array [v, w]) ++ rest =
        '[' :: (render v ++ (',' :: (render w ++ ']' :: rest))) := by
      simp [render, renderItems]
    have hlength : (render (.array [v, w])).length = (render v).length + (render w).length + 3 := by
      simp only [render, renderItems, List.length_cons, List.length_append, List.length_nil]
      omega
    have hturn : arrayTurn true (render v ++ (',' :: (render w ++ ']' :: rest))) =
        .ok (.item (render v ++ (',' :: (render w ++ ']' :: rest)))) :=
      arrayTurn_item true hleft.isWhole _
    have hturn' : arrayTurn false (',' :: (render w ++ ']' :: rest)) =
        .ok (.item (render w ++ ']' :: rest)) := arrayTurn_item false hright.isWhole _
    rw [htext, readPair, skipSpace_cons (by decide)]
    cases room with
    | zero => rfl
    | succ room =>
      have hfirst := hleft.read fuel room (',' :: (render w ++ ']' :: rest)) (by omega)
        (breaksNumber_cons (by decide) _)
      have hsecond := hright.read fuel room (']' :: rest) (by omega)
        (breaksNumber_cons (by decide) _)
      have hdepth : (Json.array [v, w]).depth ≤ room + 1 ↔ v.depth ≤ room ∧ w.depth ≤ room := by
        simp [depth, itemsDepth]
      simp only [hturn, hfirst, hdepth, bind, Except.bind]
      by_cases hv : v.depth ≤ room
      · by_cases hw : w.depth ≤ room
        · simp only [if_pos hv, hturn', hsecond, if_pos hw, if_pos (And.intro hv hw)]
          rfl
        · simp only [if_pos hv, hturn', hsecond, if_neg hw, if_neg (fun h : _ ∧ _ => hw h.2)]
      · simp only [if_neg hv, if_neg (fun h : _ ∧ _ => hv h.1)]

/-! ## Records -/

theorem Reads.field {scan : Scan α} {v : Json} {a : α} (h : Reads scan v a) (name : String)
    (given : σ → Bool) (put : α → σ → σ) (mayEnd : Bool) :
    Reads (Field.of name scan given put mayEnd).scan v (put a) where
  isWhole := h.isWhole
  read := by
    intro fuel room rest hfuel hrest
    rw [Field.of]
    simp only [h.read fuel room rest hfuel hrest]
    split
    · rfl
    · rfl

/-- Entries that fill the fields of a draft, each of them once. -/
inductive FillsDraft (fields : List (Field σ)) : σ → List (String × Json) → σ → Prop
  | nil (draft : σ) : FillsDraft fields draft [] draft
  | cons {draft full : σ} {key : String} {v : Json} {entries : List (String × Json)}
      {field : Field σ} {put : σ → σ} (hfield : (fields.find? fun f => f.name == key) = some field)
      (hnew : field.given draft = false) (hread : Reads field.scan v put)
      (hrest : FillsDraft fields (put draft) entries full) :
      FillsDraft fields draft ((key, v) :: entries) full

namespace FillsDraft

variable {fields : List (Field σ)} {draft full : σ} {entries : List (String × Json)}

theorem entriesWhole (h : FillsDraft fields draft entries full) : EntriesWhole entries := by
  induction h with
  | nil => exact trivial
  | cons _ _ hread _ ih => exact ⟨hread.isWhole, ih⟩

theorem readFields_text (h : FillsDraft fields draft entries full) (first : Bool)
    (fuel room : Nat) (rest : List Char) (hfuel : (entriesText first entries).length < fuel) :
    readFields fields first draft fuel room (entriesText first entries ++ '\x7d' :: rest) =
      if entriesDepth entries ≤ room then .ok (full, rest) else .error .malformed := by
  induction h generalizing first fuel with
  | nil draft =>
    obtain ⟨fuel, rfl⟩ : ∃ n, fuel = n + 1 := ⟨fuel - 1, by omega⟩
    rfl
  | @cons draft full key v entries field put hfield hnew hread _ ih =>
    obtain ⟨fuel, rfl⟩ : ∃ n, fuel = n + 1 := ⟨fuel - 1, by omega⟩
    have hkey := length_lt_quoted key
    rw [entriesText, List.length_append, List.length_append, List.length_cons,
      List.length_append] at hfuel
    have hvalue := hread.read fuel room (entriesText false entries ++ '\x7d' :: rest) (by omega)
      (breaksNumber_entriesText entries rest)
    have hmore := ih false fuel (by omega)
    rw [entriesText_cons, readFields, objectTurn_key]
    simp only [scanString_escaped key.toList fuel (by rw [String.length_toList]; omega),
      String.ofList_toList, hfield, hnew, expectColon_cons, hvalue, entriesDepth, Nat.max_le,
      bind, Except.bind]
    by_cases hv : v.depth ≤ room
    · by_cases hr : entriesDepth entries ≤ room
      · simp only [if_pos hv, hmore, if_pos hr, if_pos (And.intro hv hr)]
        rfl
      · simp only [if_pos hv, hmore, if_neg hr, if_neg (fun h : _ ∧ _ => hr h.2)]
        rfl
    · simp only [if_neg hv, if_neg (fun h : _ ∧ _ => hv h.1)]
      rfl

end FillsDraft

/-- A record written as an object is read field by field. -/
theorem Reads.record {fields : List (Field σ)} {draft full : σ} {entries : List (String × Json)}
    (h : FillsDraft fields draft entries full) (name : String) :
    Reads (readRecord name fields draft) (.object entries) full where
  isWhole := h.entriesWhole
  read := by
    intro fuel room rest hfuel _
    rw [render, renderEntries_eq, List.length_cons, List.length_append,
      List.length_singleton] at hfuel
    rw [render, renderEntries_eq, List.cons_append, List.append_assoc, List.cons_append,
      List.nil_append, readRecord, skipSpace_cons (by decide), depth]
    cases room with
    | zero => rfl
    | succ room =>
      have hfields := h.readFields_text true fuel room rest (by omega)
      simp only [hfields, Nat.add_le_add_iff_right]

/-- A reader that settles what another one has read. -/
theorem Reads.settle {scan : Scan α} {v : Json} {a : α} (h : Reads scan v a)
    {finish : α → Except Fault β} {b : β} (hfinish : finish a = .ok b) :
    Reads (fun fuel room cs => do
      let (a, rest) ← scan fuel room cs
      .ok (← finish a, rest)) v b where
  isWhole := h.isWhole
  read := by
    intro fuel room rest hfuel hrest
    simp only [h.read fuel room rest hfuel hrest]
    split
    · simp only [bind, Except.bind, hfinish]
    · rfl

/-! ## Whole texts -/

/-- **A value is decoded from its text exactly if the text is not too deep.** -/
theorem Reads.readAll {scan : Scan α} {v : Json} {a : α} (h : Reads scan v a) :
    readAll scan v.compact =
      if v.depth ≤ depthLimit then .ok a else .error .malformed := by
  have hread := h.read (2 * (render v).length + 2) depthLimit [] (by omega) nofun
  rw [List.append_nil] at hread
  rw [Json.readAll, compact, String.toList_ofList, hread]
  split <;> rfl

end DebugCatalog.Json
