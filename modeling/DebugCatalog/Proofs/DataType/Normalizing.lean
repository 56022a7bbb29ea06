import DebugCatalog.Proofs.DataType.Decoding
import DebugCatalog.Proofs.Json.Nesting

/-!
# Accepted texts of types

A type has many texts: its fields may stand in any order or without their names, there may be
fields that mean nothing, and an array may be written for an object.  `normalize` replaces any
of them by the text under which the type is stored.

* `depth_le_of_ofJson`: a type that was decoded is no deeper than the value it came from.
  Beside nested types the induction is over entries, items and members.
* `nests_of_read`: nor is it deeper than the text it came from, and for that there was room.
* `normalize_of_decode`: so the stored text can be read again, gives the same type, and is
  replaced by nothing else.
-/

namespace DebugCatalog.DataType

open DebugCatalog.Json (Mismatch Fault itemsDepth entriesDepth Nests Closes nesting)

/-! ### How deep a draft is -/

/-- How deep the JSON of what a field holds is. -/
def Filling.depth : Filling → Nat
  | .type t => t.toJson.depth
  | .types ts => itemsDepth (listJson ts) + 1
  | .members ms => itemsDepth (membersJson ms) + 1
  | .constants cs => itemsDepth (cs.map constantJson) + 1
  | .word _ | .flag _ | .text _ | .optionalText _ => 0

theorem depth_optional (s : Option String) : (Json.optional s).depth = 0 := by
  cases s <;> rfl

theorem depth_natural (w : UInt64) : (Json.natural w).depth = 0 := rfl

/-- Nothing in the draft is deeper than `n`. -/
def Draft.IsWithin (d : Draft) (n : Nat) : Prop :=
  ∀ e ∈ d, e.2.depth ≤ n

namespace Draft

variable {d : Draft} {n : Nat} {name : String}

theorem isWithin_nil : IsWithin [] n := fun _ he => absurd he List.not_mem_nil

theorem IsWithin.cons (h : d.IsWithin n) {filling : Filling} (hfilling : filling.depth ≤ n) :
    IsWithin ((name, filling) :: d) n :=
  List.forall_mem_cons.2 ⟨hfilling, h⟩

theorem IsWithin.depth_le_of_lookup (h : d.IsWithin n) {filling : Filling}
    (hlookup : d.lookup name = some filling) : filling.depth ≤ n := by
  obtain ⟨before, after, rfl, -⟩ := List.lookup_eq_some_iff.1 hlookup
  exact h (name, filling) (by simp)

theorem IsWithin.type (h : d.IsWithin n) {t : DataType} (ht : d.type name = .ok t) :
    t.toJson.depth ≤ n := by
  unfold Draft.type at ht
  split at ht
  · next hlookup =>
    cases ht
    exact h.depth_le_of_lookup hlookup
  · cases ht

theorem IsWithin.types (h : d.IsWithin n) {ts : List DataType} (hts : d.types name = .ok ts) :
    itemsDepth (listJson ts) + 1 ≤ n := by
  unfold Draft.types at hts
  split at hts
  · next hlookup =>
    cases hts
    exact h.depth_le_of_lookup hlookup
  · cases hts

theorem IsWithin.members (h : d.IsWithin n) {ms : List (Member DataType)}
    (hms : d.members name = .ok ms) : itemsDepth (membersJson ms) + 1 ≤ n := by
  unfold Draft.members at hms
  split at hms
  · next hlookup =>
    cases hms
    exact h.depth_le_of_lookup hlookup
  · cases hms

theorem IsWithin.constants (h : d.IsWithin n) {cs : List (String × UInt64)}
    (hcs : d.constants name = .ok cs) : itemsDepth (cs.map constantJson) + 1 ≤ n := by
  unfold Draft.constants at hcs
  split at hcs
  · next hlookup =>
    cases hcs
    exact h.depth_le_of_lookup hlookup
  · cases hcs

/-- A type is one level deeper than what it was built from. -/
theorem IsWithin.build (h : d.IsWithin n) {k : Kind} {t : DataType} (ht : d.build k = .ok t) :
    t.toJson.depth ≤ n + 1 := by
  cases k with
  | void =>
    cases ht
    exact Nat.le_add_left 1 n
  | bool =>
    cases ht
    exact Nat.le_add_left 1 n
  | int =>
    obtain ⟨w, -, ht⟩ := exists_of_bind_eq_ok ht
    obtain ⟨b, -, ht⟩ := exists_of_bind_eq_ok ht
    cases ht
    exact Nat.le_add_left 1 n
  | float =>
    obtain ⟨w, -, ht⟩ := exists_of_bind_eq_ok ht
    cases ht
    exact Nat.le_add_left 1 n
  | named =>
    obtain ⟨s, -, ht⟩ := exists_of_bind_eq_ok ht
    cases ht
    exact Nat.le_add_left 1 n
  | pointer =>
    obtain ⟨target, htarget, ht⟩ := exists_of_bind_eq_ok ht
    obtain ⟨w, -, ht⟩ := exists_of_bind_eq_ok ht
    cases ht
    rw [toJson, depth_tagged]
    simp [entriesDepth, depth_natural, h.type htarget]
  | array =>
    obtain ⟨element, helement, ht⟩ := exists_of_bind_eq_ok ht
    obtain ⟨w, -, ht⟩ := exists_of_bind_eq_ok ht
    cases ht
    rw [toJson, depth_tagged]
    simp [entriesDepth, depth_natural, h.type helement]
  | function =>
    obtain ⟨result, hresult, ht⟩ := exists_of_bind_eq_ok ht
    obtain ⟨parameters, hparameters, ht⟩ := exists_of_bind_eq_ok ht
    obtain ⟨b, -, ht⟩ := exists_of_bind_eq_ok ht
    cases ht
    rw [toJson, depth_tagged]
    simp [entriesDepth, Json.depth, h.type hresult, h.types hparameters]
  | composite =>
    obtain ⟨w, -, ht⟩ := exists_of_bind_eq_ok ht
    obtain ⟨members, hmembers, ht⟩ := exists_of_bind_eq_ok ht
    cases ht
    rw [toJson, depth_tagged]
    simp [entriesDepth, Json.depth, depth_natural, depth_optional, h.members hmembers]
  | enumeration =>
    obtain ⟨w, -, ht⟩ := exists_of_bind_eq_ok ht
    obtain ⟨constants, hconstants, ht⟩ := exists_of_bind_eq_ok ht
    cases ht
    rw [toJson, depth_tagged]
    simp [entriesDepth, Json.depth, depth_natural, depth_optional, h.constants hconstants]

/-- So is a member. -/
theorem IsWithin.member (h : d.IsWithin n) {m : Member DataType} (hm : d.member = .ok m) :
    (Json.object [("name", .string m.name), ("ty", m.type.toJson),
      ("offset", .natural m.offset)]).depth ≤ n + 1 := by
  obtain ⟨s, -, hm⟩ := exists_of_bind_eq_ok hm
  obtain ⟨t, ht, hm⟩ := exists_of_bind_eq_ok hm
  obtain ⟨w, -, hm⟩ := exists_of_bind_eq_ok hm
  cases hm
  simp [entriesDepth, Json.depth, depth_natural, h.type ht]

end Draft

/-! ### Values that contain no type -/

theorem depth_le_of_constantOf {v : Json} {c : String × UInt64} (h : constantOf v = .ok c) :
    (constantJson c).depth ≤ v.depth := by
  unfold constantOf at h
  split at h
  · cases h
  · obtain ⟨s, -, h⟩ := exists_of_bind_eq_ok h
    cases h
  · exact Nat.le_add_left 1 _
  · cases h

theorem depth_le_of_constantsOf {v : Json} {cs : List (String × UInt64)}
    (h : constantsOf v = .ok cs) : itemsDepth (cs.map constantJson) + 1 ≤ v.depth := by
  have hall : ∀ {items : List Json} {cs : List (String × UInt64)},
      List.Forall₂ (fun v c => constantOf v = .ok c) items cs →
        itemsDepth (cs.map constantJson) ≤ itemsDepth items := by
    intro items cs h
    induction h with
    | nil => exact Nat.le_refl 0
    | cons hitem _ ih => exact max_le_max (depth_le_of_constantOf hitem) ih
  unfold constantsOf at h
  split at h
  · rw [Json.depth]
    exact Nat.succ_le_succ (hall (forall₂_of_mapM h))
  · cases h

theorem depth_le_of_plainFilling {slot : Slot} {v : Json} {filling : Filling}
    (h : plainFilling slot v = .ok filling) : filling.depth ≤ v.depth := by
  unfold plainFilling at h
  split at h
  · cases h
    exact Nat.zero_le _
  · cases h
  · obtain ⟨s, -, rfl⟩ := exists_of_map_eq_ok h
    exact Nat.zero_le _
  · cases h
    exact Nat.zero_le _
  · obtain ⟨s, -, rfl⟩ := exists_of_map_eq_ok h
    exact Nat.zero_le _
  · obtain ⟨cs, hcs, rfl⟩ := exists_of_map_eq_ok h
    exact depth_le_of_constantsOf hcs
  · obtain ⟨w, -, rfl⟩ := exists_of_map_eq_ok h
    exact Nat.zero_le _

/-! ### What fields take -/

/-- A field is filled from a value. -/
inductive Takes (v : Json) : Filling → Prop
  | type {t : DataType} (h : ofJson v = .ok t) : Takes v (.type t)
  | types {items : List Json} {ts : List DataType} (hv : v = .array items)
      (h : ofItems items = .ok ts) : Takes v (.types ts)
  | members {items : List Json} {ms : List (Member DataType)} (hv : v = .array items)
      (h : membersOf items = .ok ms) : Takes v (.members ms)
  | plain {slot : Slot} {filling : Filling} (h : plainFilling slot v = .ok filling) :
      Takes v filling

/-- An entry names no field, or it fills one. -/
theorem takes_of_fromEntries {fields : List (String × Slot)} {d filled : Draft} {key : String}
    {v : Json} {rest : List (String × Json)}
    (h : fromEntries fields d ((key, v) :: rest) = .ok filled) :
    fromEntries fields d rest = .ok filled ∨
      ∃ filling, Takes v filling ∧ fromEntries fields ((key, filling) :: d) rest = .ok filled := by
  rw [fromEntries.eq_def] at h
  dsimp only at h
  split at h
  · exact .inl h
  · refine .inr ?_
    split at h
    · cases h
    · split at h
      · obtain ⟨t, ht, h⟩ := exists_of_bind_eq_ok h
        exact ⟨_, .type ht, h⟩
      · obtain ⟨ts, hts, h⟩ := exists_of_bind_eq_ok h
        exact ⟨_, .types rfl hts, h⟩
      · cases h
      · obtain ⟨ms, hms, h⟩ := exists_of_bind_eq_ok h
        exact ⟨_, .members rfl hms, h⟩
      · cases h
      · obtain ⟨filling, hfilling, h⟩ := exists_of_bind_eq_ok h
        exact ⟨filling, .plain hfilling, h⟩

/-- An item fills the next field. -/
theorem takes_of_fromItems {title : String} {all fields : List (String × Slot)} {length : Nat}
    {d filled : Draft} {v : Json} {rest : List Json}
    (h : fromItems title all fields length d (v :: rest) = .ok filled) :
    ∃ key more filling, Takes v filling ∧
      fromItems title all more length ((key, filling) :: d) rest = .ok filled := by
  rw [fromItems.eq_def] at h
  dsimp only at h
  split at h
  · cases h
  · split at h
    · obtain ⟨t, ht, h⟩ := exists_of_bind_eq_ok h
      exact ⟨_, _, _, .type ht, h⟩
    · obtain ⟨ts, hts, h⟩ := exists_of_bind_eq_ok h
      exact ⟨_, _, _, .types rfl hts, h⟩
    · cases h
    · obtain ⟨ms, hms, h⟩ := exists_of_bind_eq_ok h
      exact ⟨_, _, _, .members rfl hms, h⟩
    · cases h
    · obtain ⟨filling, hfilling, h⟩ := exists_of_bind_eq_ok h
      exact ⟨_, _, filling, .plain hfilling, h⟩

theorem eq_of_fromItems_nil {title : String} {all fields : List (String × Slot)} {length : Nat}
    {d filled : Draft} (h : fromItems title all fields length d [] = .ok filled) : filled = d := by
  rw [fromItems.eq_def] at h
  dsimp only at h
  split at h <;> cases h
  rfl

/-- A member is an object or an array of its fields. -/
theorem exists_of_membersOf_cons {v : Json} {rest : List Json} {ms : List (Member DataType)}
    (h : membersOf (v :: rest) = .ok ms) : ∃ d m others, ms = m :: others ∧
      membersOf rest = .ok others ∧ d.member = .ok m ∧
      ((∃ entries, v = .object entries ∧ fromEntries memberFields [] entries = .ok d) ∨
        ∃ items, v = .array items ∧
          fromItems memberTitle memberFields memberFields items.length [] items = .ok d) := by
  rw [membersOf.eq_def] at h
  split at h
  · next heq => cases heq
  · next entries more heq =>
    cases heq
    obtain ⟨d, hd, h⟩ := exists_of_bind_eq_ok h
    obtain ⟨m, hm, h⟩ := exists_of_bind_eq_ok h
    obtain ⟨others, hothers, h⟩ := exists_of_bind_eq_ok h
    cases h
    exact ⟨d, m, others, rfl, hothers, hm, .inl ⟨entries, rfl, hd⟩⟩
  · next items more heq =>
    cases heq
    obtain ⟨d, hd, h⟩ := exists_of_bind_eq_ok h
    obtain ⟨m, hm, h⟩ := exists_of_bind_eq_ok h
    obtain ⟨others, hothers, h⟩ := exists_of_bind_eq_ok h
    cases h
    exact ⟨d, m, others, rfl, hothers, hm, .inr ⟨items, rfl, hd⟩⟩
  · cases h

/-! ### Types in values -/

mutual

/-- **A type that was decoded is no deeper than the value it came from.** -/
theorem depth_le_of_ofJson {v : Json} {t : DataType} (h : ofJson v = .ok t) :
    t.toJson.depth ≤ v.depth := by
  cases v with
  | object entries =>
    rw [ofJson] at h
    obtain ⟨k, -, h⟩ := exists_of_bind_eq_ok h
    obtain ⟨d, hd, h⟩ := exists_of_bind_eq_ok h
    rw [Json.depth]
    exact (isWithin_of_fromEntries hd Draft.isWithin_nil (Nat.le_refl _)).build h
  | array items =>
    cases items with
    | nil =>
      rw [ofJson] at h
      cases h
    | cons kind items =>
      rw [ofJson] at h
      obtain ⟨k, -, h⟩ := exists_of_bind_eq_ok h
      obtain ⟨d, hd, h⟩ := exists_of_bind_eq_ok h
      rw [Json.depth]
      exact (isWithin_of_fromItems hd Draft.isWithin_nil (Nat.le_max_right ..)).build h
  | null => rw [ofJson] at h; cases h
  | boolean b => rw [ofJson] at h; cases h
  | number n => rw [ofJson] at h; cases h
  | string s => rw [ofJson] at h; cases h
termination_by (sizeOf v, 0)

theorem depth_le_of_takes {v : Json} {filling : Filling} (h : Takes v filling) :
    filling.depth ≤ v.depth := by
  cases h with
  | type h => exact depth_le_of_ofJson h
  | @types items ts hv h =>
    have hsize : sizeOf items < sizeOf v := by rw [hv]; simp
    rw [hv, Json.depth]
    exact Nat.succ_le_succ (depth_le_of_ofItems h)
  | @members items ms hv h =>
    have hsize : sizeOf items < sizeOf v := by rw [hv]; simp
    rw [hv, Json.depth]
    exact Nat.succ_le_succ (depth_le_of_membersOf h)
  | plain h => exact depth_le_of_plainFilling h
termination_by (sizeOf v, 1)

theorem isWithin_of_fromEntries {entries : List (String × Json)} {fields : List (String × Slot)}
    {d filled : Draft} {n : Nat} (h : fromEntries fields d entries = .ok filled)
    (hd : d.IsWithin n) (hn : entriesDepth entries ≤ n) : filled.IsWithin n := by
  match entries with
  | [] =>
    rw [fromEntries] at h
    cases h
    exact hd
  | (key, v) :: rest =>
    obtain ⟨hv, hrest⟩ := Nat.max_le.1 hn
    rcases takes_of_fromEntries h with h | ⟨filling, htakes, h⟩
    · exact isWithin_of_fromEntries h hd hrest
    · exact isWithin_of_fromEntries h (hd.cons ((depth_le_of_takes htakes).trans hv)) hrest
termination_by (sizeOf entries, 0)

theorem isWithin_of_fromItems {items : List Json} {title : String}
    {all fields : List (String × Slot)} {length : Nat} {d filled : Draft} {n : Nat}
    (h : fromItems title all fields length d items = .ok filled) (hd : d.IsWithin n)
    (hn : itemsDepth items ≤ n) : filled.IsWithin n := by
  cases items with
  | nil => exact eq_of_fromItems_nil h ▸ hd
  | cons v rest =>
    obtain ⟨hv, hrest⟩ := Nat.max_le.1 hn
    obtain ⟨key, more, filling, htakes, h⟩ := takes_of_fromItems h
    exact isWithin_of_fromItems h (hd.cons ((depth_le_of_takes htakes).trans hv)) hrest
termination_by (sizeOf items, 0)

theorem depth_le_of_ofItems {items : List Json} {ts : List DataType} (h : ofItems items = .ok ts) :
    itemsDepth (listJson ts) ≤ itemsDepth items := by
  cases items with
  | nil =>
    rw [ofItems] at h
    cases h
    exact Nat.le_refl 0
  | cons v rest =>
    rw [ofItems] at h
    obtain ⟨t, ht, h⟩ := exists_of_bind_eq_ok h
    obtain ⟨ts, hts, h⟩ := exists_of_bind_eq_ok h
    cases h
    exact max_le_max (depth_le_of_ofJson ht) (depth_le_of_ofItems hts)
termination_by (sizeOf items, 0)

theorem depth_le_of_membersOf {items : List Json} {ms : List (Member DataType)}
    (h : membersOf items = .ok ms) : itemsDepth (membersJson ms) ≤ itemsDepth items := by
  match items with
  | [] =>
    rw [membersOf] at h
    cases h
    exact Nat.le_refl 0
  | v :: rest =>
    obtain ⟨d, ⟨name, type, offset⟩, others, rfl, hothers, hm, hd⟩ := exists_of_membersOf_cons h
    refine max_le_max ?_ (depth_le_of_membersOf hothers)
    rcases hd with ⟨entries, hv, hd⟩ | ⟨fields, hv, hd⟩
    · have hsize : sizeOf entries < sizeOf v := by rw [hv]; simp
      rw [hv, Json.depth]
      exact (isWithin_of_fromEntries hd Draft.isWithin_nil (Nat.le_refl _)).member hm
    · have hsize : sizeOf fields < sizeOf v := by rw [hv]; simp
      rw [hv, Json.depth]
      exact (isWithin_of_fromItems hd Draft.isWithin_nil (Nat.le_refl _)).member hm
termination_by (sizeOf items, 0)

end

theorem depth_le_of_ofEntries {k : Kind} {entries : List (String × Json)} {t : DataType}
    (h : ofEntries k entries = .ok t) : t.toJson.depth ≤ entriesDepth entries + 1 := by
  obtain ⟨d, hd, h⟩ := exists_of_bind_eq_ok h
  exact (isWithin_of_fromEntries hd Draft.isWithin_nil (Nat.le_refl _)).build h

theorem depth_le_of_ofPositions {k : Kind} {items : List Json} {t : DataType}
    (h : ofPositions k items = .ok t) : t.toJson.depth ≤ itemsDepth items + 1 := by
  obtain ⟨d, hd, h⟩ := exists_of_bind_eq_ok h
  exact (isWithin_of_fromItems hd Draft.isWithin_nil (Nat.le_refl _)).build h

/-! ### Types in texts -/

theorem nests_of_readKind {fuel room : Nat} {cs rest : List Char} {k : Kind}
    (h : readKind fuel room cs = .ok (k, rest)) : Nests cs rest 0 := by
  obtain ⟨⟨s, mid⟩, htext, h⟩ := exists_of_bind_eq_ok h
  dsimp only at h
  split at h <;> cases h
  exact Json.nests_of_readText htext

/-- The kind is no deeper than its text, so only the other entries count. -/
theorem closes_of_readTagged {first : Bool} {kind kind' : Option Kind} {fuel room : Nat}
    {cs rest : List Char} {entries : List (String × Json)}
    (h : readTagged first kind fuel room cs = .ok ((kind', entries), rest)) :
    Closes cs rest (entriesDepth entries) ∧ entriesDepth entries ≤ room := by
  induction fuel generalizing first kind cs entries with
  | zero => cases h
  | succ fuel ih =>
    rw [readTagged] at h
    obtain ⟨turn, hturn, h⟩ := exists_of_bind_eq_ok h
    cases turn with
    | close mid =>
      cases h
      exact ⟨Json.closes_of_objectTurn hturn, Nat.zero_le _⟩
    | item mid =>
      obtain ⟨⟨key, behind⟩, hkey, h⟩ := exists_of_bind_eq_ok h
      dsimp only at h
      split at h
      · split at h
        · cases h
        · obtain ⟨value, hcolon, h⟩ := exists_of_bind_eq_ok h
          obtain ⟨⟨k, more⟩, hk, h⟩ := exists_of_bind_eq_ok h
          obtain ⟨hcloses, hroom⟩ := ih h
          exact ⟨((Json.nests_of_key hturn hkey hcolon).then (nests_of_readKind hk)).thenCloses
            hcloses, hroom⟩
      · obtain ⟨value, hcolon, h⟩ := exists_of_bind_eq_ok h
        obtain ⟨⟨v, more⟩, hvalue, h⟩ := exists_of_bind_eq_ok h
        obtain ⟨⟨⟨k, entries⟩, last⟩, hentries, h⟩ := exists_of_bind_eq_ok h
        cases h
        obtain ⟨hnests, hroom⟩ := Json.nests_of_readValue hvalue
        obtain ⟨hcloses, hroom'⟩ := ih hentries
        exact ⟨(Json.nests_of_key hturn hkey hcolon).thenCloses (hnests.closes hcloses),
          Nat.max_le.2 ⟨hroom, hroom'⟩⟩

theorem settle_eq_ok {α : Type} {rest rest' : List Char} {x : Except Mismatch α} {a : α}
    (h : settle rest x = .ok (a, rest')) : x = .ok a ∧ rest' = rest := by
  cases x with
  | error m => cases h
  | ok b =>
    cases h
    exact ⟨rfl, rfl⟩

/-- **A type that was read is no deeper than its text**, and for the text there was room. -/
theorem nests_of_read {fuel room : Nat} {cs rest : List Char} {t : DataType}
    (h : read fuel room cs = .ok (t, rest)) :
    ∃ d, Nests cs rest d ∧ t.toJson.depth ≤ d ∧ d ≤ room := by
  unfold read at h
  have hspace := Json.nests_skipSpace cs
  split at h
  · next more heq =>
    rw [heq] at hspace
    cases room with
    | zero => cases h
    | succ room =>
      obtain ⟨turn, hturn, h⟩ := exists_of_bind_eq_ok h
      cases turn with
      | close mid => cases h
      | item mid =>
        obtain ⟨⟨k, behind⟩, hk, h⟩ := exists_of_bind_eq_ok h
        obtain ⟨⟨items, last⟩, hitems, h⟩ := exists_of_bind_eq_ok h
        obtain ⟨ht, rfl⟩ := settle_eq_ok h
        obtain ⟨hcloses, hroom⟩ := Json.closes_of_readItems hitems
        have hkind := (Json.nests_of_arrayTurn hturn).then (nests_of_readKind hk)
        exact ⟨_, hspace.then (hkind.thenCloses hcloses).array, depth_le_of_ofPositions ht,
          Nat.succ_le_succ hroom⟩
  · next more heq =>
    rw [heq] at hspace
    cases room with
    | zero => cases h
    | succ room =>
      obtain ⟨⟨⟨kind, entries⟩, last⟩, hentries, h⟩ := exists_of_bind_eq_ok h
      obtain ⟨hcloses, hroom⟩ := closes_of_readTagged hentries
      cases kind with
      | none => cases h
      | some k =>
        obtain ⟨ht, rfl⟩ := settle_eq_ok h
        exact ⟨_, hspace.then hcloses.object, depth_le_of_ofEntries ht, Nat.succ_le_succ hroom⟩
  · exact absurd h Json.refuse_ne_ok

theorem depth_le_nesting {text : String} {t : DataType} (h : decode text = .ok t) :
    t.toJson.depth ≤ nesting text ∧ nesting text ≤ Json.depthLimit := by
  obtain ⟨⟨t', rest⟩, hread, h⟩ := exists_of_bind_eq_ok h
  dsimp only at h
  split at h
  · next hrest =>
    cases h
    obtain ⟨d, hnests, hdepth, hroom⟩ := nests_of_read hread
    rw [Json.nesting_eq_of_nests hnests hrest]
    exact ⟨hdepth, hroom⟩
  · cases h

theorem nesting_encode (t : DataType) : nesting t.encode = t.toJson.depth :=
  Json.nesting_compact (isWhole_toJson t)

/-- The text under which the type of a text is stored. -/
def normalize (text : String) : Except Fault String :=
  encode <$> decode text

/-- **Accepted texts have a normal form.**  It nests no deeper than any text that it replaces,
stands for the same type, and is its own normal form. -/
theorem normalize_of_decode {text : String} {t : DataType} (h : decode text = .ok t) :
    normalize text = .ok t.encode ∧ nesting t.encode ≤ nesting text ∧
      nesting text ≤ Json.depthLimit ∧ decode t.encode = .ok t ∧
      normalize t.encode = .ok t.encode := by
  obtain ⟨hdepth, hlimit⟩ := depth_le_nesting h
  have hagain : decode t.encode = .ok t := by
    rw [decode_encode, if_pos (hdepth.trans hlimit)]
  refine ⟨?_, ?_, hlimit, hagain, ?_⟩
  · rw [normalize, h]
    rfl
  · rw [nesting_encode]
    exact hdepth
  · rw [normalize, hagain]
    rfl

/-- A structure as arrays, and its member's type as an object that begins with a remark. -/
def looseText : String :=
  " [\"structure\", null, 8, [[\"x\", \x7b\"note\": [[0]], \"kind\": \"bool\"\x7d, 4]] ] "

theorem normalize_of_decode_looseText :
    decode looseText = .ok (.composite none 8 [⟨"x", .bool, 4⟩]) ∧
      normalize looseText = .ok (encode (.composite none 8 [⟨"x", .bool, 4⟩])) ∧
      nesting (encode (.composite none 8 [⟨"x", .bool, 4⟩])) ≤ nesting looseText ∧
      nesting looseText ≤ Json.depthLimit ∧
      decode (encode (.composite none 8 [⟨"x", .bool, 4⟩])) =
        .ok (.composite none 8 [⟨"x", .bool, 4⟩]) ∧
      normalize (encode (.composite none 8 [⟨"x", .bool, 4⟩])) =
        .ok (encode (.composite none 8 [⟨"x", .bool, 4⟩])) := by
  have h : decode looseText = .ok (.composite none 8 [⟨"x", .bool, 4⟩]) := by
    -- A text is compared by its characters, which a literal does not show.
    unfold decode Json.readAll looseText
    simp only [String.reduceToList]
    rfl
  exact ⟨h, normalize_of_decode h⟩

end DebugCatalog.DataType
