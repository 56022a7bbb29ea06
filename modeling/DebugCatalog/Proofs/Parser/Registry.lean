import DebugCatalog.Parser.Symbols
import DebugCatalog.Proofs.KeyedList
import Mathlib.Data.List.DropRight

/-!
# Registries that come about by registering

A registry into which parsers were registered, one after the other, finds each of them
by its name.  So whichever of them accept an image, their names are distinct
(`Registry.Reachable.nodup_parsersFor`).

* `isValidName_iff`: the names that parsers can have are those that are not empty and neither
  begin nor end with a blank.
* `register_eq_ok_iff`, `register_of_inadmissible`, `register_of_taken`: which registrations
  succeed, what they do, and for which of the two reasons the others fail.
* `Reachable.indexed`: a registry finds under a name the parser at the position of this name.
-/

namespace DebugCatalog

namespace Text

/-- Texts without blanks at their ends are those that trimming leaves as they are. -/
theorem trim_eq_self_iff (s : List Char) :
    trim s = s ↔ (∀ c ∈ s.head?, isBlank c = false) ∧ ∀ c ∈ s.getLast?, isBlank c = false := by
  have hhead : s.dropWhile isBlank = s ↔ ∀ c ∈ s.head?, isBlank c = false := by
    cases s with
    | nil => simp
    | cons c s => rw [List.dropWhile_eq_self_iff]; simp
  have hlast : s.rdropWhile isBlank = s ↔ ∀ c ∈ s.getLast?, isBlank c = false := by
    rw [List.rdropWhile_eq_self_iff]
    rcases s.eq_nil_or_concat with rfl | ⟨t, c, rfl⟩ <;> simp
  rw [← hhead, ← hlast]
  change (s.dropWhile isBlank).rdropWhile isBlank = s ↔ _
  constructor
  · intro h
    -- what is cut off in front is missing, whatever is cut off at the back
    have hdrop : s.dropWhile isBlank = s := by
      refine (List.dropWhile_suffix isBlank).eq_of_length_le ?_
      have hle := (List.rdropWhile_prefix isBlank (s.dropWhile isBlank)).length_le
      rwa [h] at hle
    exact ⟨hdrop, by rwa [hdrop] at h⟩
  · rintro ⟨hdrop, hrdrop⟩
    rw [hdrop, hrdrop]

end Text

/-- The symbols parser as it is registered, where `path` reads names. -/
def Parser.symbolTable (path : String → String) (registration : Nat) : Parser :=
  { registration, name := symbolsName, behavior := symbolsBy path }

namespace Registry

variable {r r' : Registry} {registration : Nat} {name : String} {behavior : Parser.Behavior}
  {p : Parser}

/-! ### Registering -/

/-- A name that parsers can have. -/
structure Admissible (name : String) : Prop where
  nonempty : name ≠ ""
  head : ∀ c ∈ name.toList.head?, Text.isBlank c = false
  last : ∀ c ∈ name.toList.getLast?, Text.isBlank c = false

theorem isValidName_iff (name : String) : isValidName name = true ↔ Admissible name := by
  rw [isValidName, Bool.and_eq_true, bne_iff_ne, beq_iff_eq, Text.trim_eq_self_iff]
  exact ⟨fun ⟨hne, hhead, hlast⟩ => ⟨hne, hhead, hlast⟩, fun h => ⟨h.nonempty, h.head, h.last⟩⟩

/-- The name is looked at first, whatever the registry has. -/
theorem register_of_inadmissible (r : Registry) (hname : ¬ Admissible name) (registration : Nat)
    (behavior : Parser.Behavior) :
    r.register registration name behavior = .error (.invalidName name) := by
  rw [← isValidName_iff, Bool.not_eq_true] at hname
  rw [register, hname]
  rfl

theorem register_of_taken (hname : Admissible name) (htaken : r.contains name = true)
    (registration : Nat) (behavior : Parser.Behavior) :
    r.register registration name behavior = .error (.duplicate name) := by
  rw [register, (isValidName_iff name).2 hname]
  exact if_pos htaken

theorem register_of_new (hname : Admissible name) (hnew : r.contains name = false)
    (registration : Nat) (behavior : Parser.Behavior) :
    r.register registration name behavior =
      .ok ({ parsers := r.parsers.push { registration, name, behavior } },
        { registration, name, behavior }) := by
  rw [register, (isValidName_iff name).2 hname]
  exact if_neg (Bool.eq_false_iff.1 hnew)

/-- A parser is registered exactly if its name is admissible and new, and comes last then. -/
theorem register_eq_ok_iff : r.register registration name behavior = .ok (r', p) ↔
    Admissible name ∧ r.contains name = false ∧ p = { registration, name, behavior } ∧
      r' = { parsers := r.parsers.push p } := by
  constructor
  · intro h
    by_cases hname : Admissible name
    · cases htaken : r.contains name with
      | true =>
        rw [register_of_taken hname htaken] at h
        cases h
      | false =>
        rw [register_of_new hname htaken] at h
        cases h
        exact ⟨hname, rfl, rfl, rfl⟩
    · rw [register_of_inadmissible r hname] at h
      cases h
  · rintro ⟨hname, hnew, rfl, rfl⟩
    exact register_of_new hname hnew _ _

theorem list_of_register (h : r.register registration name behavior = .ok (r', p)) :
    r'.list = r.list ++ [p] := by
  obtain ⟨-, -, -, rfl⟩ := register_eq_ok_iff.1 h
  exact KeyedList.toList_push _ _

/-- A registry that is made from the empty one by registering. -/
inductive Reachable : Registry → Prop
  | empty : Reachable .empty
  | register {r r' : Registry} {registration : Nat} {name : String} {behavior : Parser.Behavior}
      {p : Parser} (hr : Reachable r) (h : r.register registration name behavior = .ok (r', p)) :
      Reachable r'

theorem register_of_free {r : Registry} (hr : r.parsers.Sound) {name : String}
    (hvalid : isValidName name = true) (hfree : ∀ p ∈ r.list, p.name ≠ name) (registration : Nat)
    (behavior : Parser.Behavior) :
    r.register registration name behavior =
      .ok ({ parsers := r.parsers.push { registration, name, behavior } },
        { registration, name, behavior }) :=
  register_of_new ((isValidName_iff name).1 hvalid)
    ((hr.contains_eq_false_iff name).2 hfree) _ _

theorem Reachable.sound {r : Registry} (h : r.Reachable) : r.parsers.Sound := by
  induction h with
  | empty => exact KeyedList.sound_empty
  | register _ h ih =>
    obtain ⟨-, hfree, rfl, rfl⟩ := register_eq_ok_iff.1 h
    exact ih.push hfree

/-- A parser more, if its name is admissible and free. -/
theorem Reachable.push (h : r.Reachable) (p : Parser) (hvalid : isValidName p.name = true)
    (hfree : ∀ q ∈ r.list, q.name ≠ p.name) : Reachable { parsers := r.parsers.push p } :=
  .register h (register_of_free h.sound hvalid hfree p.registration p.behavior)

theorem Reachable.admissible (h : r.Reachable) : ∀ p ∈ r.list, Admissible p.name := by
  induction h with
  | empty => exact fun p hp => absurd hp List.not_mem_nil
  | register _ h ih =>
    obtain ⟨hname, -, rfl, -⟩ := register_eq_ok_iff.1 h
    rw [list_of_register h]
    exact List.forall_mem_append.2 ⟨ih, List.forall_mem_singleton.2 hname⟩

/-- Whichever parsers accept an image, they have different names. -/
theorem Reachable.nodup_parsersFor {r : Registry} (h : r.Reachable) (v : Image) :
    ((r.parsersFor v).map Parser.name).Nodup :=
  h.sound.nodup.sublist (List.filter_sublist.map Parser.name)

/-! ### The standard registry -/

theorem register_standard (registration : Nat) :
    empty.register registration Parser.symbolsName Parser.symbols =
      .ok (standard registration, Parser.symbolTable Mangling.demangle registration) := by
  have hvalid : isValidName Parser.symbolsName = true := by decide
  have h := register_of_free (r := empty) KeyedList.sound_empty hvalid
    (fun p hp => absurd hp List.not_mem_nil) registration Parser.symbols
  have hstandard : standard registration =
      { parsers := KeyedList.empty.push (Parser.symbolTable Mangling.demangle registration) } := by
    rw [standard, h]
    rfl
  rw [h, hstandard]
  rfl

theorem reachable_standard (registration : Nat) : (standard registration).Reachable :=
  .register .empty (register_standard registration)

theorem list_standard (registration : Nat) :
    (standard registration).list = [Parser.symbolTable Mangling.demangle registration] :=
  list_of_register (register_standard registration)

/-! ### Finding -/

theorem Reachable.find?_eq_some_iff (h : r.Reachable) :
    r.find? name = some p ↔ p ∈ r.list ∧ p.name = name :=
  h.sound.find?_eq_some_iff name p

theorem Reachable.parser_eq_ok_iff (h : r.Reachable) :
    r.parser name = .ok p ↔ p ∈ r.list ∧ p.name = name := by
  rw [← h.find?_eq_some_iff, parser]
  cases r.find? name with
  | some q => exact ⟨fun hq => congrArg some (Except.ok.inj hq), fun hq => by cases hq; rfl⟩
  | none => exact ⟨nofun, nofun⟩

/-- A registry finds its parsers by the positions of their names. -/
structure Indexed (r : Registry) : Prop where
  distinct : r.names.Nodup
  admissible : ∀ name ∈ r.names, Admissible name
  find? : ∀ name, r.find? name = (r.names.idxOf? name).bind fun i => r.list[i]?
  contains : ∀ name, r.contains name = true ↔ name ∈ r.names
  parser_of_mem : ∀ name ∈ r.names, ∃ p, r.find? name = some p ∧ p.name = name ∧
    r.parser name = .ok p
  parser_of_notMem : ∀ name, name ∉ r.names → r.find? name = none ∧
    r.parser name = .error (.unknown name)

theorem Reachable.indexed (h : r.Reachable) : r.Indexed where
  distinct := h.sound.nodup
  admissible name hname := by
    obtain ⟨p, hp, rfl⟩ := List.mem_map.1 hname
    exact h.admissible p hp
  find? := h.sound.find?_eq_idxOf?
  contains name := (h.sound.contains_iff name).trans List.mem_map.symm
  parser_of_mem name hname := by
    obtain ⟨p, hp, hpname⟩ := List.mem_map.1 hname
    have hfind : r.find? name = some p := (h.sound.find?_eq_some_iff name p).2 ⟨hp, hpname⟩
    exact ⟨p, hfind, hpname, by rw [parser, hfind]⟩
  parser_of_notMem name hname := by
    have hfind : r.find? name = none := by
      refine Option.eq_none_iff_forall_ne_some.2 fun p hp => hname ?_
      exact List.mem_map.2 ⟨p, (h.sound.find?_eq_some_iff name p).1 hp⟩
    exact ⟨hfind, by rw [parser, hfind]⟩

end Registry

end DebugCatalog
