import DebugCatalog.Json.Record
import DebugCatalog.Proofs.Json.Skipping
import Mathlib.Data.List.DropRight
import Mathlib.Data.List.Nodup

/-!
# Readers of any text

A reader that asks for a value of a given kind may be handed any text of that value: with blanks
between the tokens, with other escapes in its strings, and with entries that nobody asks for.
`Takes scan v a` says that it does not matter which: wherever a text is read as `v`, the scan takes
`a` from it and stops at the same place.  (The law `Reads` of the stored records is about one text
of a value, and says when it is refused.)

There is one law for each way of building a reader, and `Takes.readAll` is the law of a whole text.
Records written as objects are read entry by entry (`Fills`), those written as arrays item by item
(`FillsInOrder`).  Entries may come in any order; `Awaits` says what becomes of one field.
-/

namespace DebugCatalog.Json

variable {α β σ : Type} {cs rest : List Char} {fuel room : Nat}

/-- Wherever a text is read as `v`, the scan takes `a` from it, given as many steps and at least two
for each character. -/
def Takes (scan : Scan α) (v : Json) (a : α) : Prop :=
  ∀ fuel room cs rest, readValue fuel room cs = .ok (v, rest) →
    ∀ steps, fuel ≤ steps → 2 * cs.length < steps → scan steps room cs = .ok (a, rest)

/-! ## What a text begins with -/

theorem length_lt_of_readValue {v : Json} (h : readValue fuel room cs = .ok (v, rest)) :
    rest.length < cs.length :=
  length_lt_of_skipValue (skipValue_of_readValue h _ (Nat.lt_succ_self _))

theorem length_lt_of_scanString {s : List Char} (h : scanString fuel cs = .ok (s, rest)) :
    rest.length < cs.length :=
  length_lt_of_skipString (skipString_of_scanString h _ (Nat.le_refl _))

theorem scanString_mono {s : List Char} (h : scanString fuel cs = .ok (s, rest)) (steps : Nat)
    (hsteps : fuel ≤ steps) : scanString steps cs = .ok (s, rest) := by
  induction fuel generalizing cs s steps with
  | zero => cases h
  | succ fuel ih =>
    obtain ⟨steps, rfl⟩ : ∃ n, steps = n + 1 := ⟨steps - 1, by omega⟩
    have hle := Nat.le_of_succ_le_succ hsteps
    unfold scanString at h
    split at h
    · cases h
    · exact h
    · obtain ⟨⟨c, mid⟩, hescape, h⟩ := exists_of_bind_eq_ok h
      obtain ⟨⟨s, rest⟩, hmore, h⟩ := exists_of_bind_eq_ok h
      cases h
      rw [scanString]
      simp only [hescape, ih hmore steps hle, bind, Except.bind]
    · next hquote hback =>
      split at h
      · cases h
      · next hc =>
        obtain ⟨⟨s, rest⟩, hmore, h⟩ := exists_of_bind_eq_ok h
        cases h
        rw [scanString_plain hquote hback hc, ih hmore steps hle]
        rfl

/-! ## Strings and words -/

theorem takes_text (expected s : String) : Takes (readText expected) (.string s) s := by
  intro fuel room cs rest h steps hfuel _
  cases fuel with
  | zero => cases h
  | succ fuel =>
    have hreading := reading_of_readValue h
    unfold readText
    generalize skipSpace cs = start at hreading
    cases hreading with
    | string hstring => simp only [scanString_mono hstring steps (by omega), bind, Except.bind]

theorem takes_string (s : String) : Takes readString (.string s) s :=
  takes_text _ s

theorem takes_word (w : UInt64) : Takes readWord (.natural w) w := by
  intro fuel room cs rest h steps _ _
  cases fuel with
  | zero => cases h
  | succ fuel =>
    have hreading := reading_of_readValue h
    unfold readWord
    generalize skipSpace cs = start at hreading
    cases hreading with
    | negative hnumber => simp only [hnumber, Number.word?, bind, Except.bind]
    | digits hc hnumber =>
      dsimp only
      split
      · next heq => exact absurd (List.cons.inj heq).1 (digit_ne hc (by decide))
      · next heq =>
        obtain ⟨rfl, rfl⟩ := List.cons.inj heq
        rw [if_pos hc]
        simp only [hnumber, Number.word?, bind, Except.bind]
      · next heq => cases heq

theorem takes_optional_null (scan : Scan α) : Takes (readOptional scan) .null none := by
  intro fuel room cs rest h steps _ _
  cases fuel with
  | zero => cases h
  | succ fuel =>
    have hreading := reading_of_readValue h
    unfold readOptional
    generalize skipSpace cs = start at hreading
    cases hreading with
    | null hword => simp only [hword, bind, Except.bind]

theorem skipSpace_idem (cs : List Char) : skipSpace (skipSpace cs) = skipSpace cs :=
  List.dropWhile_idempotent ..

theorem readValue_skipSpace (fuel room : Nat) (cs : List Char) :
    readValue fuel room (skipSpace cs) = readValue fuel room cs := by
  cases fuel with
  | zero => rfl
  | succ fuel => rw [readValue, readValue, skipSpace_idem]

/-- What is read in place of `null` begins in another way. -/
theorem Takes.optional {scan : Scan α} {v : Json} {a : α} (h : Takes scan v a) (hv : v ≠ .null) :
    Takes (readOptional scan) v (some a) := by
  intro fuel room cs rest hread steps hfuel hsteps
  have hspace : (skipSpace cs).length ≤ cs.length := length_dropWhile_le isSpace cs
  have hscan := h fuel room (skipSpace cs) rest (by rwa [readValue_skipSpace]) steps hfuel
    (by omega)
  cases fuel with
  | zero => cases hread
  | succ fuel =>
    have hreading := reading_of_readValue hread
    unfold readOptional
    generalize skipSpace cs = start at hreading hscan
    split
    · cases hreading with
      | null => exact absurd rfl hv
      | digits hc => exact absurd hc (by decide)
    · simp only [hscan, bind, Except.bind]

theorem takes_optional (s : Option String) : Takes (readOptional readString) (.optional s) s :=
  match s with
  | none => takes_optional_null _
  | some s => (takes_string s).optional nofun

/-! ## Lists -/

theorem readListItems_of_readItems {scan : Scan α} {vs : List Json} {xs : List α}
    (h : List.Forall₂ (Takes scan) vs xs) {first : Bool}
    (hread : readItems first fuel room cs = .ok (vs, rest)) (steps : Nat) (hfuel : fuel ≤ steps)
    (hsteps : 2 * cs.length + 1 < steps) :
    readListItems scan first steps room cs = .ok (xs, rest) := by
  induction h generalizing first fuel cs steps with
  | nil =>
    obtain ⟨steps, rfl⟩ : ∃ n, steps = n + 1 := ⟨steps - 1, by omega⟩
    rw [readListItems, arrayTurn_of_readItems_nil hread]
    rfl
  | cons hx _ ih =>
    obtain ⟨steps, rfl⟩ : ∃ n, steps = n + 1 := ⟨steps - 1, by omega⟩
    obtain ⟨fewer, mid, behind, rfl, hturn, hitem, hitems⟩ := exists_of_readItems_cons hread
    have hmid := length_le_of_arrayTurn hturn
    have hbehind := length_lt_of_readValue hitem
    have hscan := hx fewer room mid behind hitem steps (by omega) (by omega)
    have hmore := ih hitems steps (by omega) (by omega)
    rw [readListItems, hturn]
    simp only [hscan, hmore, bind, Except.bind]

/-- A list is taken if each of its items is. -/
theorem Takes.list {scan : Scan α} {vs : List Json} {xs : List α}
    (h : List.Forall₂ (Takes scan) vs xs) : Takes (readList scan) (.array vs) xs := by
  intro fuel room cs rest hread steps hfuel hsteps
  have hspace : (skipSpace cs).length ≤ cs.length := length_dropWhile_le isSpace cs
  cases fuel with
  | zero => cases hread
  | succ fuel =>
    have hreading := reading_of_readValue hread
    unfold readList
    generalize skipSpace cs = start at hreading hspace
    cases hreading with
    | array hroom hitems =>
      subst hroom
      rw [List.length_cons] at hspace
      exact readListItems_of_readItems h hitems steps (by omega) (by omega)

/-! ## Records -/

theorem Takes.settle {scan : Scan α} {v : Json} {a : α} (h : Takes scan v a)
    {finish : α → Except Fault β} {b : β} (hfinish : finish a = .ok b) :
    Takes (fun fuel room cs => do
      let (a, rest) ← scan fuel room cs
      .ok (← finish a, rest)) v b := by
  intro fuel room cs rest hread steps hfuel hsteps
  simp only [h fuel room cs rest hread steps hfuel hsteps, hfinish, bind, Except.bind]

theorem Takes.field {scan : Scan α} {v : Json} {a : α} (h : Takes scan v a) (name : String)
    (given : σ → Bool) (put : α → σ → σ) (mayEnd : Bool) :
    Takes (Field.of name scan given put mayEnd).scan v (put a) := by
  intro fuel room cs rest hread steps hfuel hsteps
  rw [Field.of]
  simp only [h fuel room cs rest hread steps hfuel hsteps, bind, Except.bind]

/-- Entries that fill the fields of a draft, each of them once, and entries that are passed over. -/
inductive Fills (fields : List (Field σ)) : σ → List (String × Json) → σ → Prop
  | nil (draft : σ) : Fills fields draft [] draft
  | known {draft full : σ} {key : String} {v : Json} {entries : List (String × Json)}
      {field : Field σ} {put : σ → σ} (hfield : (fields.find? fun f => f.name == key) = some field)
      (hnew : field.given draft = false) (htakes : Takes field.scan v put)
      (hrest : Fills fields (put draft) entries full) :
      Fills fields draft ((key, v) :: entries) full
  | unknown {draft full : σ} {key : String} {v : Json} {entries : List (String × Json)}
      (hfield : (fields.find? fun f => f.name == key) = none)
      (hrest : Fills fields draft entries full) : Fills fields draft ((key, v) :: entries) full

theorem Fills.readFields_of_readEntries {fields : List (Field σ)} {draft full : σ}
    {entries : List (String × Json)} (h : Fills fields draft entries full) {first : Bool}
    (hread : readEntries first fuel room cs = .ok (entries, rest)) (steps : Nat)
    (hfuel : fuel ≤ steps) (hsteps : 2 * cs.length < steps) :
    readFields fields first draft steps room cs = .ok (full, rest) := by
  induction h generalizing first fuel cs steps with
  | nil draft =>
    obtain ⟨steps, rfl⟩ : ∃ n, steps = n + 1 := ⟨steps - 1, by omega⟩
    rw [readFields, objectTurn_of_readEntries_nil hread]
    rfl
  | known hfield hnew htakes _ ih =>
    obtain ⟨steps, rfl⟩ : ∃ n, steps = n + 1 := ⟨steps - 1, by omega⟩
    obtain ⟨fewer, mid, s, behind, value, more, rfl, hturn, hkey, rfl, hcolon, hvalue, hentries⟩ :=
      exists_of_readEntries_cons hread
    have hmid := length_lt_of_objectTurn hturn
    have hbehind := length_lt_of_scanString hkey
    have hcolon' := length_lt_of_expectColon hcolon
    have hmore' := length_lt_of_readValue hvalue
    have hscan := htakes fewer room value more hvalue steps (by omega) (by omega)
    have hmore := ih hentries steps (by omega) (by omega)
    rw [readFields, hturn]
    simp only [scanString_mono hkey steps (by omega), hfield, hnew, hcolon, hscan, hmore, bind,
      Except.bind]
    rfl
  | unknown hfield _ ih =>
    obtain ⟨steps, rfl⟩ : ∃ n, steps = n + 1 := ⟨steps - 1, by omega⟩
    obtain ⟨fewer, mid, s, behind, value, more, rfl, hturn, hkey, rfl, hcolon, hvalue, hentries⟩ :=
      exists_of_readEntries_cons hread
    have hmid := length_lt_of_objectTurn hturn
    have hbehind := length_lt_of_scanString hkey
    have hcolon' := length_lt_of_expectColon hcolon
    have hmore' := length_lt_of_readValue hvalue
    -- nobody asks for the value, which was read: so it can be passed over
    have hskip := skipValue_of_readValue hvalue steps (by omega)
    have hmore := ih hentries steps (by omega) (by omega)
    rw [readFields, hturn]
    simp only [scanString_mono hkey steps (by omega), hfield, hcolon, hskip, hmore, bind,
      Except.bind]

/-- A record written as an object is taken if its entries fill the draft. -/
theorem Takes.record {fields : List (Field σ)} {draft full : σ} {entries : List (String × Json)}
    (h : Fills fields draft entries full) (name : String) :
    Takes (readRecord name fields draft) (.object entries) full := by
  intro fuel room cs rest hread steps hfuel hsteps
  have hspace : (skipSpace cs).length ≤ cs.length := length_dropWhile_le isSpace cs
  cases fuel with
  | zero => cases hread
  | succ fuel =>
    have hreading := reading_of_readValue hread
    unfold readRecord
    generalize skipSpace cs = start at hreading hspace
    cases hreading with
    | object hroom hentries =>
      subst hroom
      rw [List.length_cons] at hspace
      exact h.readFields_of_readEntries hentries steps (by omega) (by omega)

/-! ## Records written as arrays -/

/-- Values for the fields of a draft one after another.  They may end where an array may. -/
inductive FillsInOrder : List (Field σ) → σ → List Json → σ → Prop
  | nil {fields : List (Field σ)} (draft : σ) (hend : ∀ field ∈ fields, field.mayEnd = true) :
      FillsInOrder fields draft [] draft
  | cons {fields : List (Field σ)} {field : Field σ} {draft full : σ} {put : σ → σ} {v : Json}
      {vs : List Json} (htakes : Takes field.scan v put)
      (hrest : FillsInOrder fields (put draft) vs full) :
      FillsInOrder (field :: fields) draft (v :: vs) full

theorem closeArray_of_arrayTurn {first : Bool} (h : arrayTurn first cs = .ok (.close rest)) :
    closeArray cs = .ok rest := by
  unfold arrayTurn at h
  split at h
  · cases h
  · next heq =>
    cases h
    rw [closeArray, heq]
    rfl
  · split at h
    · cases h
    · split at h <;> cases h
  · split at h <;> cases h

theorem FillsInOrder.readPositions_of_readItems {fields : List (Field σ)} {draft full : σ}
    {vs : List Json} (h : FillsInOrder fields draft vs full) (title : String) (index : Nat)
    (hread : readItems (index == 0) fuel room cs = .ok (vs, rest)) (steps : Nat)
    (hfuel : fuel ≤ steps) (hsteps : 2 * cs.length < steps) :
    readPositions title fields index draft steps room cs = .ok (full, rest) := by
  induction h generalizing index fuel cs with
  | @nil fields draft hend =>
    have hturn := arrayTurn_of_readItems_nil hread
    cases fields with
    | nil =>
      rw [readPositions, closeArray_of_arrayTurn hturn]
      rfl
    | cons field fields =>
      have hnone : ((field :: fields).findIdx? fun f => !f.mayEnd) = none :=
        List.findIdx?_eq_none_iff.2 fun f hf => by rw [hend f hf, Bool.not_true]
      rw [readPositions, hturn]
      simp only [hnone, bind, Except.bind]
  | cons htakes _ ih =>
    obtain ⟨fewer, mid, behind, rfl, hturn, hitem, hitems⟩ := exists_of_readItems_cons hread
    have hmid := length_le_of_arrayTurn hturn
    have hbehind := length_lt_of_readValue hitem
    have hscan := htakes fewer room mid behind hitem steps (by omega) (by omega)
    have hmore := ih (index + 1) hitems (by omega) (by omega)
    rw [readPositions, hturn]
    simp only [hscan, hmore, bind, Except.bind]

/-- A record written as an array is taken if its items fill the draft in the order of the fields. -/
theorem Takes.recordInOrder {fields : List (Field σ)} {draft full : σ} {vs : List Json}
    (h : FillsInOrder fields draft vs full) (name : String) :
    Takes (readRecord name fields draft) (.array vs) full := by
  intro fuel room cs rest hread steps hfuel hsteps
  have hspace : (skipSpace cs).length ≤ cs.length := length_dropWhile_le isSpace cs
  cases fuel with
  | zero => cases hread
  | succ fuel =>
    have hreading := reading_of_readValue hread
    unfold readRecord
    generalize skipSpace cs = start at hreading hspace
    cases hreading with
    | array hroom hitems =>
      subst hroom
      rw [List.length_cons] at hspace
      exact h.readPositions_of_readItems _ 0 hitems steps (by omega) (by omega)

/-! ## Entries in any order -/

/-- The values that stand under a key. -/
def valuesOf (key : String) (entries : List (String × Json)) : List Json :=
  (entries.filter fun e => e.1 == key).map Prod.snd

theorem valuesOf_cons_self (key : String) (v : Json) (entries : List (String × Json)) :
    valuesOf key ((key, v) :: entries) = v :: valuesOf key entries := by
  simp [valuesOf]

theorem valuesOf_cons_of_ne {key other : String} (h : other ≠ key) (v : Json)
    (entries : List (String × Json)) :
    valuesOf key ((other, v) :: entries) = valuesOf key entries := by
  simp [valuesOf, h]

/-- What becomes of an optional part when these are the values to come: nothing, or it is not there
yet and is read. -/
inductive Awaits (scan : Scan α) : List Json → Option α → Option α → Prop
  | settled (a : Option α) : Awaits scan [] a a
  | due {v : Json} {a : α} (h : Takes scan v a) : Awaits scan [v] none (some a)

theorem Awaits.eq {scan : Scan α} {before after : Option α} (h : Awaits scan [] before after) :
    before = after := by
  cases h
  rfl

theorem Awaits.take {scan : Scan α} {v : Json} {vs : List Json} {before after : Option α}
    (h : Awaits scan (v :: vs) before after) :
    before = none ∧ ∃ a, Takes scan v a ∧ Awaits scan vs (some a) after := by
  cases h with
  | due h => exact ⟨rfl, _, h, .settled _⟩

/-- A field that is an optional part of the draft. -/
structure Slot (σ : Type) where
  {Part : Type}
  name : String
  scan : Scan Part
  get : σ → Option Part
  put : Part → σ → σ
  mayEnd : Bool := false

def Slot.field (s : Slot σ) : Field σ :=
  .of s.name s.scan (fun draft => (s.get draft).isSome) s.put s.mayEnd

/-- A draft consists of its slots. -/
structure AreSlots (slots : List (Slot σ)) : Prop where
  names : (slots.map Slot.name).Nodup
  get_put : ∀ s ∈ slots, ∀ a draft, s.get (s.put a draft) = some a
  get_put_of_ne : ∀ s ∈ slots, ∀ t ∈ slots, s.name ≠ t.name →
    ∀ a draft, t.get (s.put a draft) = t.get draft
  ext : ∀ draft full : σ, (∀ s ∈ slots, s.get draft = s.get full) → draft = full

theorem Slot.find?_field {slots : List (Slot σ)} (key : String) :
    ((slots.map Slot.field).find? fun f => f.name == key) =
      (slots.find? fun s => s.name == key).map Slot.field := by
  rw [List.find?_map]
  rfl

/-- **Entries fill a draft in any order** if each slot finds what it awaits. -/
theorem AreSlots.fills {slots : List (Slot σ)} (h : AreSlots slots)
    {entries : List (String × Json)} {draft full : σ}
    (hawaits : ∀ s ∈ slots, Awaits s.scan (valuesOf s.name entries) (s.get draft) (s.get full)) :
    Fills (slots.map Slot.field) draft entries full := by
  -- each entry is awaited by one slot or by none, and the others await what they did before it
  induction entries generalizing draft with
  | nil =>
    obtain rfl := h.ext draft full fun s hs => (hawaits s hs).eq
    exact .nil _
  | cons entry entries ih =>
    obtain ⟨key, v⟩ := entry
    cases hfind : slots.find? fun s => s.name == key with
    | some s =>
      have hs := List.mem_of_find?_eq_some hfind
      obtain rfl : s.name = key := beq_iff_eq.1 (List.find?_some hfind :)
      have hself := hawaits s hs
      rw [valuesOf_cons_self] at hself
      obtain ⟨hnone, a, htakes, hrest⟩ := hself.take
      have hfield : ((slots.map Slot.field).find? fun f => f.name == s.name) = some s.field := by
        rw [Slot.find?_field, hfind]
        rfl
      refine .known hfield (congrArg Option.isSome hnone) (htakes.field _ _ _ _) (ih ?_)
      intro t ht
      by_cases hname : s.name = t.name
      · obtain rfl := List.inj_on_of_nodup_map h.names hs ht hname
        rw [h.get_put s hs]
        exact hrest
      · have hother := hawaits t ht
        rw [valuesOf_cons_of_ne hname] at hother
        rw [h.get_put_of_ne s hs t ht hname]
        exact hother
    | none =>
      refine .unknown (by rw [Slot.find?_field, hfind]; rfl) (ih fun t ht => ?_)
      have hother := hawaits t ht
      have hne := List.find?_eq_none.1 hfind t ht
      rw [valuesOf_cons_of_ne (fun heq => hne (beq_iff_eq.2 heq.symm))] at hother
      exact hother

/-! ## Whole texts -/

/-- **Every text of a value is decoded as it is.** -/
theorem Takes.readAll {scan : Scan α} {v : Json} {a : α} (h : Takes scan v a) {text : String}
    (hparse : parse text = .ok v) : readAll scan text = .ok a := by
  obtain ⟨⟨w, rest⟩, hread, hrest⟩ := exists_of_bind_eq_ok hparse
  dsimp only at hrest
  split at hrest
  · next hblank =>
    cases hrest
    have hscan := h _ depthLimit text.toList rest hread _ (Nat.le_refl _) (by omega)
    rw [Json.readAll]
    simp only [hscan, bind, Except.bind]
    rw [if_pos hblank]
  · cases hrest

end DebugCatalog.Json
