import DebugCatalog.DataType.Reader
import DebugCatalog.Proofs.Json.Values

/-!
# Types decoded

A type is stored as the text of its JSON value.  This file takes it back, in two
steps: `ofJson_toJson` from the value, and `decode_encode` from the text.

    decode t.encode = if t.toJson.depth ≤ depthLimit then .ok t else .error .malformed

The value is decoded by its kind.  `toJson_eq_tagged` gives the entries of a type
behind its kind and says that they decode to it; `Fills` says slot by slot what
stands for what.  The outermost type of a text is read by a scanner of its own,
`readTagged`, which meets the kind first and then reads the entries as any object
is read.
-/

namespace DebugCatalog.DataType

open DebugCatalog.Json (Mismatch Fault Scan IsWhole AreWhole EntriesWhole)

/-! ### Kinds -/

theorem Kind.ofName?_name (k : Kind) : Kind.ofName? k.name = some k := by
  cases k <;> decide

theorem Kind.lookup_kind (k : Kind) : k.fields.lookup "kind" = none := by
  cases k <;> decide

theorem kindAmong_some (k : Kind) {fields : List (String × Json)}
    (h : ∀ e ∈ fields, e.1 ≠ "kind") : kindAmong (some k) fields = .ok k := by
  induction fields with
  | nil => rfl
  | cons e fields ih =>
    rw [kindAmong, if_neg (h e (List.mem_cons_self ..))]
    exact ih fun x hx => h x (List.mem_cons_of_mem _ hx)

theorem fromEntries_skip {fields : List (String × Slot)} {key : String}
    (h : fields.lookup key = none) (draft : Draft) (v : Json) (rest : List (String × Json)) :
    fromEntries fields draft ((key, v) :: rest) = fromEntries fields draft rest := by
  rw [fromEntries, h]

theorem ofJson_tagged (k : Kind) {fields : List (String × Json)}
    (h : ∀ e ∈ fields, e.1 ≠ "kind") : ofJson (tagged k fields) = ofEntries k fields := by
  have hkind : kindAmong none (("kind", .string k.name) :: fields) = .ok k := by
    rw [kindAmong, if_pos rfl]
    simp only [kindOf, Kind.ofName?_name, bind, Except.bind]
    exact kindAmong_some k h
  rw [tagged, ofJson, hkind]
  simp only [bind, Except.bind, ofEntries]
  rw [fromEntries_skip k.lookup_kind]

/-- What `toJson_eq_tagged` says of a type is all that decoding it needs. -/
theorem ofJson_toJson_of_tagged {t : DataType} (h : ∃ k fields, t.toJson = tagged k fields ∧
    (∀ e ∈ fields, e.1 ≠ "kind") ∧ ofEntries k fields = .ok t) : ofJson t.toJson = .ok t := by
  obtain ⟨k, fields, hjson, hkeys, hread⟩ := h
  rw [hjson, ofJson_tagged k hkeys, hread]

/-! ### Fields -/

/-- A slot and what stands for a filling of it. -/
inductive Fills : Slot → Json → Filling → Prop
  | word (w : UInt64) : Fills .word (.natural w) (.word w)
  | flag (b : Bool) : Fills .flag (.boolean b) (.flag b)
  | text (s : String) : Fills .text (.string s) (.text s)
  | optionalText (s : Option String) : Fills .optionalText (.optional s) (.optionalText s)
  | constants (cs : List (String × UInt64)) :
      Fills .constants (.array (cs.map constantJson)) (.constants cs)
  | type {v : Json} {t : DataType} (h : ofJson v = .ok t) : Fills .type v (.type t)
  | types {items : List Json} {ts : List DataType} (h : ofItems items = .ok ts) :
      Fills .types (.array items) (.types ts)
  | members {items : List Json} {ms : List (Member DataType)} (h : membersOf items = .ok ms) :
      Fills .members (.array items) (.members ms)

theorem constantsOf_map (cs : List (String × UInt64)) :
    constantsOf (.array (cs.map constantJson)) = .ok cs := by
  rw [constantsOf]
  induction cs with
  | nil => rfl
  | cons c cs ih =>
    rw [List.map_cons, List.mapM_cons, ih]
    rfl

/-- A field that is new to the draft is put in front of it. -/
theorem fromEntries_fill {slot : Slot} {v : Json} {filling : Filling} (h : Fills slot v filling)
    {fields : List (String × Slot)} {key : String} (hslot : fields.lookup key = some slot)
    {draft : Draft} (hnew : draft.lookup key = none) (rest : List (String × Json)) :
    fromEntries fields draft ((key, v) :: rest) =
      fromEntries fields ((key, filling) :: draft) rest := by
  have hfree : (draft.lookup key).isSome = false := by rw [hnew]; rfl
  rw [fromEntries.eq_def]
  simp only [hslot, hfree]
  cases h with
  | word w => rfl
  | flag b => rfl
  | text s => rfl
  | optionalText s => cases s <;> rfl
  | constants cs => simp [plainFilling, constantsOf_map, bind, Except.bind]
  | type h => simp [h, bind, Except.bind]
  | types h => simp [h, bind, Except.bind]
  | members h => simp [h, bind, Except.bind]

theorem fromEntries_nil (fields : List (String × Slot)) (draft : Draft) :
    fromEntries fields draft [] = .ok draft := by
  rw [fromEntries]

/-! ### Types

A type is the object of its kind, and none of its own entries can be taken for
the kind.  Lists of types and of members go along in the induction. -/

mutual

theorem toJson_eq_tagged (t : DataType) : ∃ k fields, t.toJson = tagged k fields ∧
    (∀ e ∈ fields, e.1 ≠ "kind") ∧ ofEntries k fields = .ok t := by
  cases t with
  | void => exact ⟨.void, [], by rw [toJson], by simp, rfl⟩
  | bool => exact ⟨.bool, [], by rw [toJson], by simp, rfl⟩
  | int width signed =>
    refine ⟨.int, _, by rw [toJson], by simp, ?_⟩
    rw [ofEntries, fromEntries_fill (.word width) rfl rfl, fromEntries_fill (.flag signed) rfl rfl,
      fromEntries_nil]
    rfl
  | float width =>
    refine ⟨.float, _, by rw [toJson], by simp, ?_⟩
    rw [ofEntries, fromEntries_fill (.word width) rfl rfl, fromEntries_nil]
    rfl
  | pointer target width =>
    have ht := ofJson_toJson_of_tagged (toJson_eq_tagged target)
    refine ⟨.pointer, _, by rw [toJson], by simp, ?_⟩
    rw [ofEntries, fromEntries_fill (.type ht) rfl rfl, fromEntries_fill (.word width) rfl rfl,
      fromEntries_nil]
    rfl
  | array element count =>
    have ht := ofJson_toJson_of_tagged (toJson_eq_tagged element)
    refine ⟨.array, _, by rw [toJson], by simp, ?_⟩
    rw [ofEntries, fromEntries_fill (.type ht) rfl rfl, fromEntries_fill (.word count) rfl rfl,
      fromEntries_nil]
    rfl
  | function result parameters variadic =>
    have ht := ofJson_toJson_of_tagged (toJson_eq_tagged result)
    have hts := ofItems_listJson parameters
    refine ⟨.function, _, by rw [toJson], by simp, ?_⟩
    rw [ofEntries, fromEntries_fill (.type ht) rfl rfl, fromEntries_fill (.types hts) rfl rfl,
      fromEntries_fill (.flag variadic) rfl rfl, fromEntries_nil]
    rfl
  | composite name width members =>
    have hms := membersOf_membersJson members
    refine ⟨.composite, _, by rw [toJson], by simp, ?_⟩
    rw [ofEntries, fromEntries_fill (.optionalText name) rfl rfl,
      fromEntries_fill (.word width) rfl rfl, fromEntries_fill (.members hms) rfl rfl,
      fromEntries_nil]
    rfl
  | enumeration name width constants =>
    refine ⟨.enumeration, _, by rw [toJson], by simp, ?_⟩
    rw [ofEntries, fromEntries_fill (.optionalText name) rfl rfl,
      fromEntries_fill (.word width) rfl rfl, fromEntries_fill (.constants constants) rfl rfl,
      fromEntries_nil]
    rfl
  | named name =>
    refine ⟨.named, _, by rw [toJson], by simp, ?_⟩
    rw [ofEntries, fromEntries_fill (.text name) rfl rfl, fromEntries_nil]
    rfl

theorem ofItems_listJson (ts : List DataType) : ofItems (listJson ts) = .ok ts := by
  cases ts with
  | nil => rw [listJson, ofItems]
  | cons t ts =>
    have ht := ofJson_toJson_of_tagged (toJson_eq_tagged t)
    rw [listJson, ofItems, ht, ofItems_listJson ts]
    rfl

theorem membersOf_membersJson (ms : List (Member DataType)) :
    membersOf (membersJson ms) = .ok ms := by
  cases ms with
  | nil => rw [membersJson, membersOf]
  | cons m ms =>
    obtain ⟨name, type, offset⟩ := m
    have ht := ofJson_toJson_of_tagged (toJson_eq_tagged type)
    rw [membersJson, membersOf, fromEntries_fill (.text name) rfl rfl,
      fromEntries_fill (.type ht) rfl rfl, fromEntries_fill (.word offset) rfl rfl,
      fromEntries_nil, membersOf_membersJson ms]
    rfl

end

/-- **Decoding a nested type undoes its description.** -/
theorem ofJson_toJson (t : DataType) : ofJson t.toJson = .ok t :=
  ofJson_toJson_of_tagged (toJson_eq_tagged t)

/-! ### No fractions -/

theorem isWhole_optional (s : Option String) : (Json.optional s).IsWhole := by
  cases s <;> exact trivial

theorem areWhole_constants (cs : List (String × UInt64)) : AreWhole (cs.map constantJson) := by
  induction cs with
  | nil => exact trivial
  | cons c cs ih => exact ⟨⟨trivial, trivial, trivial⟩, ih⟩

mutual

theorem isWhole_toJson (t : DataType) : t.toJson.IsWhole := by
  cases t with
  | pointer target width => exact ⟨trivial, isWhole_toJson target, trivial, trivial⟩
  | array element count => exact ⟨trivial, isWhole_toJson element, trivial, trivial⟩
  | function result parameters variadic =>
    exact ⟨trivial, isWhole_toJson result, areWhole_listJson parameters, trivial, trivial⟩
  | composite name width members =>
    exact ⟨trivial, isWhole_optional name, trivial, areWhole_membersJson members, trivial⟩
  | enumeration name width constants =>
    exact ⟨trivial, isWhole_optional name, trivial, areWhole_constants constants, trivial⟩
  | void => exact ⟨trivial, trivial⟩
  | bool => exact ⟨trivial, trivial⟩
  | int width signed => exact ⟨trivial, trivial, trivial, trivial⟩
  | float width => exact ⟨trivial, trivial, trivial⟩
  | named name => exact ⟨trivial, trivial, trivial⟩

theorem areWhole_listJson (ts : List DataType) : AreWhole (listJson ts) := by
  cases ts with
  | nil => exact trivial
  | cons t ts => exact ⟨isWhole_toJson t, areWhole_listJson ts⟩

theorem areWhole_membersJson (ms : List (Member DataType)) : AreWhole (membersJson ms) := by
  cases ms with
  | nil => exact trivial
  | cons m ms =>
    obtain ⟨name, type, offset⟩ := m
    exact ⟨⟨trivial, isWhole_toJson type, trivial, trivial⟩, areWhole_membersJson ms⟩

end

/-! ### Texts -/

open DebugCatalog.Json (render entriesText entriesDepth quoted escape)

theorem scanKey (key : String) (fuel : Nat) (h : (quoted key).length ≤ fuel) (rest : List Char) :
    Json.scanString fuel (key.toList.flatMap escape ++ '"' :: rest) = .ok (key.toList, rest) := by
  have hkey := Json.length_lt_quoted key
  exact Json.scanString_escaped _ _ (by rw [String.length_toList]; omega) rest

theorem readKind_name (k : Kind) (fuel : Nat) (h : (quoted k.name).length ≤ fuel) (room : Nat)
    (rest : List Char) : readKind fuel room (quoted k.name ++ rest) = .ok (k, rest) := by
  have hname : Json.readText "variant identifier" fuel room (quoted k.name ++ rest) =
      .ok (k.name, rest) := by
    rw [quoted, List.cons_append, List.append_assoc, List.cons_append, List.nil_append,
      Json.readText, Json.skipSpace_cons (by decide)]
    simp only [scanKey k.name fuel h, bind, Except.bind, String.ofList_toList]
  rw [readKind, hname]
  simp only [bind, Except.bind, Kind.ofName?_name]

/-- Behind its kind a type is read like any object. -/
theorem readTagged_fields (k : Kind) (fields : List (String × Json))
    (hwhole : EntriesWhole fields) (hkeys : ∀ e ∈ fields, e.1 ≠ "kind") (fuel room : Nat)
    (rest : List Char) (hfuel : (entriesText false fields).length < fuel) :
    readTagged false (some k) fuel room (entriesText false fields ++ '\x7d' :: rest) =
      if entriesDepth fields ≤ room then .ok ((some k, fields), rest) else .error .malformed := by
  induction fields generalizing fuel with
  | nil =>
    obtain ⟨fuel, rfl⟩ : ∃ n, fuel = n + 1 := ⟨fuel - 1, by omega⟩
    rfl
  | cons e fields ih =>
    obtain ⟨fuel, rfl⟩ : ∃ n, fuel = n + 1 := ⟨fuel - 1, by omega⟩
    obtain ⟨key, v⟩ := e
    have hkey : String.ofList key.toList ≠ "kind" := by
      rw [String.ofList_toList]
      exact hkeys (key, v) (List.mem_cons_self ..)
    rw [entriesText, List.length_append, List.length_append, List.length_cons,
      List.length_append] at hfuel
    have hvalue := Json.readValue_render v hwhole.1 fuel room
      (entriesText false fields ++ '\x7d' :: rest) (by omega)
      (Json.breaksNumber_entriesText fields rest)
    have hmore := ih hwhole.2 (fun x hx => hkeys x (List.mem_cons_of_mem _ hx)) fuel (by omega)
    rw [Json.entriesText_cons, readTagged, Json.objectTurn_key]
    simp only [scanKey key fuel (by omega), if_neg hkey, Json.expectColon_cons, hvalue,
      entriesDepth, Nat.max_le, bind, Except.bind]
    by_cases hv : v.depth ≤ room
    · by_cases hr : entriesDepth fields ≤ room
      · simp only [if_pos hv, hmore, if_pos hr, if_pos (And.intro hv hr), String.ofList_toList]
      · simp only [if_pos hv, hmore, if_neg hr, if_neg (fun h : _ ∧ _ => hr h.2)]
    · simp only [if_neg hv, if_neg (fun h : _ ∧ _ => hv h.1)]

theorem readTagged_tagged (k : Kind) (fields : List (String × Json))
    (hwhole : EntriesWhole fields) (hkeys : ∀ e ∈ fields, e.1 ≠ "kind") (fuel room : Nat)
    (rest : List Char)
    (hfuel : (entriesText true (("kind", .string k.name) :: fields)).length < fuel) :
    readTagged true none fuel room
        (entriesText true (("kind", .string k.name) :: fields) ++ '\x7d' :: rest) =
      if entriesDepth fields ≤ room then .ok ((some k, fields), rest) else .error .malformed := by
  obtain ⟨fuel, rfl⟩ : ∃ n, fuel = n + 1 := ⟨fuel - 1, by omega⟩
  rw [entriesText, List.length_append, List.length_append, List.length_cons,
    List.length_append, render] at hfuel
  have hfields := readTagged_fields k fields hwhole hkeys fuel room rest (by omega)
  rw [Json.entriesText_cons, readTagged, Json.objectTurn_key, render]
  simp only [scanKey "kind" fuel (by omega), String.ofList_toList, Json.expectColon_cons,
    readKind_name k fuel (by omega), bind, Except.bind]
  exact hfields

theorem depth_tagged (k : Kind) (fields : List (String × Json)) :
    (tagged k fields).depth = entriesDepth fields + 1 := by
  simp [tagged, Json.depth, entriesDepth]

/-- **A type is read back from its text exactly when it is not too deep.** -/
theorem read_render (t : DataType) (fuel room : Nat) (rest : List Char)
    (hfuel : (render t.toJson).length ≤ fuel) :
    read fuel room (render t.toJson ++ rest) =
      if t.toJson.depth ≤ room then .ok (t, rest) else .error .malformed := by
  have hwhole := isWhole_toJson t
  obtain ⟨k, fields, hjson, hkeys, hread⟩ := toJson_eq_tagged t
  rw [hjson] at hfuel hwhole ⊢
  rw [tagged, render, Json.renderEntries_eq, List.length_cons, List.length_append,
    List.length_singleton] at hfuel
  rw [depth_tagged, tagged, render, Json.renderEntries_eq, List.cons_append, List.append_assoc,
    List.cons_append, List.nil_append, read, Json.skipSpace_cons (by decide)]
  cases room with
  | zero => rfl
  | succ room =>
    have hentries := readTagged_tagged k fields hwhole.2 hkeys fuel room rest (by omega)
    simp only [hentries, Nat.add_le_add_iff_right]
    split
    · simp only [bind, Except.bind, hread]
      rfl
    · rfl

/-- **Decoding undoes encoding exactly for types within the depth limit.** -/
theorem decode_encode (t : DataType) :
    decode t.encode =
      if t.toJson.depth ≤ Json.depthLimit then .ok t else .error .malformed := by
  have hread := read_render t (2 * (render t.toJson).length + 2) Json.depthLimit []
    (by omega)
  rw [List.append_nil] at hread
  rw [decode, Json.readAll, encode, Json.compact, String.toList_ofList, hread]
  split <;> rfl

end DebugCatalog.DataType
