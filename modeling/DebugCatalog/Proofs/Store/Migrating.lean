import DebugCatalog.Proofs.Store.Transaction

/-!
# Bringing a store to the current version

A migration is made of steps, one for each version that the store is behind (`migrate_eq_foldl`).
A step makes the tables of its version and leaves those alone that are there, whatever version
they are of (`Keeps`).  So a migration of as many steps as it takes loses nothing, and in the
end all tables are there (`exists_migrate`), if those of the versions that are skipped were.
-/

namespace DebugCatalog

/-- The version whose step makes a table. -/
def StoreTable.since : StoreTable → Int
  | .binaries => 1
  | .runs => 2
  | .types | .functions | .parameters => 3

namespace Store

variable {s s' s'' : Store}

/-! ### What steps keep -/

/-- A table is as it was, or it is new. -/
def Kept {α : Type} (new : α) (before after : Option α) : Prop :=
  after = before ∨ before = none ∧ after = some new

namespace Kept

variable {α : Type} {new t : α} {a b c : Option α}

theorem refl (new : α) (a : Option α) : Kept new a a := .inl rfl

theorem trans (hab : Kept new a b) (hbc : Kept new b c) : Kept new a c := by
  rcases hab with rfl | ⟨ha, hb⟩
  · exact hbc
  · rcases hbc with rfl | ⟨hnone, -⟩
    · exact .inr ⟨ha, hb⟩
    · exact absurd (hnone.symm.trans hb) nofun

theorem getD (new : α) (a : Option α) : Kept new a (some (a.getD new)) := by
  cases a with
  | none => exact .inr ⟨rfl, rfl⟩
  | some t => exact .inl rfl

theorem eq_some (h : Kept new a b) (ha : a = some t) : b = some t := by
  rcases h with rfl | ⟨hnone, -⟩
  · exact ha
  · exact absurd (hnone.symm.trans ha) nofun

theorem isSome (h : Kept new a b) (ha : a.isSome = true) : b.isSome = true := by
  obtain ⟨t, ht⟩ := Option.isSome_iff_exists.1 ha
  exact Option.isSome_iff_exists.2 ⟨t, h.eq_some ht⟩

end Kept

/-- Every table that was there has the same rows in the same order and the same counter, and
every new one is empty. -/
structure Keeps (s s' : Store) : Prop where
  binaries : Kept .empty s.binaries s'.binaries
  runs : Kept .empty s.runs s'.runs
  types : Kept [] s.types s'.types
  functions : Kept [] s.functions s'.functions
  parameters : Kept [] s.parameters s'.parameters

namespace Keeps

theorem refl (s : Store) : s.Keeps s :=
  ⟨.refl _ _, .refl _ _, .refl _ _, .refl _ _, .refl _ _⟩

theorem trans (h : s.Keeps s') (h' : s'.Keeps s'') : s.Keeps s'' :=
  ⟨h.binaries.trans h'.binaries, h.runs.trans h'.runs, h.types.trans h'.types,
    h.functions.trans h'.functions, h.parameters.trans h'.parameters⟩

theorem hasTable (h : s.Keeps s') {table : StoreTable} (ht : s.hasTable table = true) :
    s'.hasTable table = true := by
  cases table with
  | binaries => exact h.binaries.isSome ht
  | runs => exact h.runs.isSome ht
  | types => exact h.types.isSome ht
  | functions => exact h.functions.isSome ht
  | parameters => exact h.parameters.isSome ht

end Keeps

/-! ### One step -/

theorem keeps_upgrade (s : Store) (version : Int) : s.Keeps (s.upgrade version) := by
  unfold upgrade
  split
  · exact { Keeps.refl s with binaries := .getD _ _ }
  · exact { Keeps.refl s with runs := .getD _ _ }
  · exact { Keeps.refl s with
      types := .getD _ _, functions := .getD _ _, parameters := .getD _ _ }
  · exact .refl s

theorem hasTable_upgrade_since (s : Store) (table : StoreTable) :
    (s.upgrade table.since).hasTable table = true := by
  cases table <;> rfl

/-- The versions that have a step. -/
def versions : List Int := [1, 2, 3]

theorem version_upgrade (s : Store) {version : Int} (h : version ∈ versions) :
    (s.upgrade version).version = version := by
  simp only [versions, List.mem_cons, List.not_mem_nil, or_false] at h
  rcases h with rfl | rfl | rfl <;> rfl

theorem since_mem_versions (table : StoreTable) : table.since ∈ versions := by
  cases table <;> decide

/-! ### Step after step -/

theorem keeps_foldl_upgrade (vs : List Int) (s : Store) : s.Keeps (vs.foldl upgrade s) := by
  induction vs generalizing s with
  | nil => exact .refl s
  | cons v vs ih => exact (keeps_upgrade s v).trans (ih _)

theorem hasTable_foldl_upgrade {vs : List Int} {table : StoreTable} (h : table.since ∈ vs)
    (s : Store) : (vs.foldl upgrade s).hasTable table = true := by
  induction vs generalizing s with
  | nil => exact absurd h List.not_mem_nil
  | cons v vs ih =>
    rcases List.mem_cons.1 h with rfl | h
    · exact (keeps_foldl_upgrade vs _).hasTable (hasTable_upgrade_since s table)
    · exact ih h _

theorem version_foldl_upgrade {vs : List Int} (h : ∀ v ∈ vs, v ∈ versions) (s : Store) :
    (vs.foldl upgrade s).version = vs.getLast?.getD s.version := by
  induction vs generalizing s with
  | nil => rfl
  | cons v vs ih =>
    obtain ⟨hv, hvs⟩ := List.forall_mem_cons.1 h
    rw [List.foldl_cons, ih hvs, version_upgrade s hv, List.getLast?_cons, Option.getD_some]

/-! ### All steps -/

/-- The steps that a store of a version has yet to take. -/
def pending (version : Int) : List Int :=
  versions.filter fun v => version < v

theorem mem_versions_of_pending {version v : Int} (h : v ∈ pending version) : v ∈ versions :=
  (List.mem_filter.1 h).1

theorem version_cases {version : Int} (hmin : minVersion ≤ version)
    (hmax : version ≤ currentVersion) :
    version = 0 ∨ version = 1 ∨ version = 2 ∨ version = 3 := by
  simp only [minVersion, currentVersion] at hmin hmax
  omega

/-- A migration takes the steps of all later versions, in their order. -/
theorem migrate_eq_foldl (hmin : minVersion ≤ s.version) (hmax : s.version ≤ currentVersion) :
    s.migrate = .ok ((pending s.version).foldl upgrade s) := by
  obtain ⟨version, binaries, runs, types, functions, parameters⟩ := s
  rcases version_cases hmin hmax with rfl | rfl | rfl | rfl <;> rfl

theorem getLast?_pending {version : Int} (hmin : minVersion ≤ version)
    (hmax : version ≤ currentVersion) :
    (pending version).getLast?.getD version = currentVersion := by
  rcases version_cases hmin hmax with rfl | rfl | rfl | rfl <;> rfl

/-- Whatever version a store is of, and whatever is in its tables, a migration brings it to the
current one and keeps all that it has. -/
theorem exists_migrate (hmin : minVersion ≤ s.version) (hmax : s.version ≤ currentVersion)
    (htables : ∀ table : StoreTable, table.since ≤ s.version → s.hasTable table = true) :
    ∃ s', s.migrate = .ok s' ∧ s'.version = currentVersion ∧
      (∀ table, s'.hasTable table = true) ∧ s.Keeps s' := by
  refine ⟨_, migrate_eq_foldl hmin hmax, ?_, fun table => ?_, keeps_foldl_upgrade _ s⟩
  · rw [version_foldl_upgrade (fun _ => mem_versions_of_pending), getLast?_pending hmin hmax]
  · by_cases hsince : table.since ≤ s.version
    · exact (keeps_foldl_upgrade _ s).hasTable (htables table hsince)
    · exact hasTable_foldl_upgrade (List.mem_filter.2 ⟨since_mem_versions table,
        decide_eq_true (Int.lt_of_not_ge hsince)⟩) s

/-- A store of the current version is migrated to itself. -/
theorem migrate_of_version (h : s.version = currentVersion) : s.migrate = .ok s := by
  have hmin : minVersion ≤ s.version := by rw [h]; decide
  rw [migrate_eq_foldl hmin (Int.le_of_eq h), h]
  rfl

end Store

end DebugCatalog
