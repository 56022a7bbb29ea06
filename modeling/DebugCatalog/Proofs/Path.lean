import DebugCatalog.Path

/-!
# Files in directories

A file in a directory is one component more than the directory.  This does not depend on how the
path of the directory is written: it may be empty, end in slashes, or have components that count for
nothing.

* `pieces_append_slash`: a slash ends a piece.
* `components_join`: the components of a file in a directory.
-/

namespace DebugCatalog.Path

/-- The text is a component of its own, and leads down. -/
structure IsFileName (name : List Char) : Prop where
  notIdle : isIdle name = false
  notUp : name ≠ ['.', '.']
  noSlash : '/' ∉ name

variable {cs piece : List Char} {rest : List (List Char)} {path file : String}

/-! ### Pieces -/

theorem pieces_ne_nil (cs : List Char) : pieces cs ≠ [] := by
  cases cs with
  | nil => exact nofun
  | cons c cs =>
    rw [pieces]
    split
    · exact nofun
    · split <;> exact nofun

theorem pieces_of_notMem (h : '/' ∉ cs) : pieces cs = [cs] := by
  induction cs with
  | nil => rfl
  | cons c cs ih =>
    rw [List.mem_cons, not_or] at h
    rw [pieces, if_neg (Ne.symm h.1), ih h.2]

theorem pieces_append_slash (as bs : List Char) :
    pieces (as ++ '/' :: bs) = pieces as ++ pieces bs := by
  induction as with
  | nil => rfl
  | cons a as ih =>
    rw [List.cons_append, pieces, pieces, ih]
    split
    · rfl
    · cases hpieces : pieces as with
      | nil => exact absurd hpieces (pieces_ne_nil as)
      | cons p ps => rfl

/-- Only nothing is a single empty piece. -/
theorem eq_nil_of_pieces (h : pieces cs = [[]]) : cs = [] := by
  cases cs with
  | nil => rfl
  | cons c cs =>
    rw [pieces] at h
    split at h
    · exact absurd (List.cons.inj h).2 (pieces_ne_nil cs)
    · split at h <;> cases (List.cons.inj h).1

/-! ### Components -/

/-- What the first of several pieces stands for. -/
def firstComponents (piece : List Char) : List Component :=
  if piece.isEmpty then [.root] else if isDot piece then [.current] else (component? piece).toList

theorem components_of_pieces (h : pieces path.toList = piece :: rest)
    (hne : piece ≠ [] ∨ rest ≠ []) :
    components path = firstComponents piece ++ rest.filterMap component? := by
  rw [components, start, h, firstComponents]
  dsimp only
  by_cases hempty : piece = []
  · have hrest := hne.resolve_left (absurd hempty)
    rw [hempty]
    simp [hrest]
  · rw [← List.isEmpty_iff, Bool.not_eq_true] at hempty
    simp only [hempty, Bool.false_and, Bool.false_eq_true, if_false]
    split
    · rfl
    · cases hpiece : component? piece with
      | none => simp [hpiece]
      | some c => simp [hpiece]

namespace IsFileName

theorem ne_nil (h : IsFileName cs) : cs ≠ [] := by
  rintro rfl
  cases h.notIdle

theorem component?_eq (h : IsFileName cs) : component? cs = some (.normal cs) := by
  rw [component?, h.notIdle, if_neg Bool.false_ne_true, if_neg h.notUp]

theorem firstComponents_eq (h : IsFileName cs) : firstComponents cs = [.normal cs] := by
  obtain ⟨hempty, hdot⟩ := Bool.or_eq_false_iff.1 h.notIdle
  rw [firstComponents, hempty, hdot, h.component?_eq]
  rfl

theorem isAbsolute (h : IsFileName file.toList) : Path.isAbsolute file = false := by
  unfold Path.isAbsolute
  split
  · next heq => exact absurd (heq ▸ List.mem_cons_self ..) h.noSlash
  · rfl

end IsFileName

/-- There is one slash in front of the file, which may be the last of the path of the directory. -/
theorem exists_toList_join {base : String} (hbase : base ≠ "") (hfile : IsFileName file.toList) :
    ∃ directory, (join base file).toList = directory ++ '/' :: file.toList ∧
      (base.toList = directory ∨ base.toList = directory ++ ['/']) := by
  have hne : base.toList.isEmpty = false := by
    rw [List.isEmpty_eq_false_iff, Ne, String.toList_eq_nil_iff]
    exact hbase
  by_cases hlast : base.toList.getLast? = some '/'
  · obtain ⟨directory, hdirectory⟩ := List.getLast?_eq_some_iff.1 hlast
    refine ⟨directory, ?_, .inr hdirectory⟩
    rw [join, hfile.isAbsolute]
    simp [hdirectory]
  · refine ⟨base.toList, ?_, .inl rfl⟩
    rw [join, hfile.isAbsolute]
    simp [hlast, hbase]

theorem join_empty (hfile : IsFileName file.toList) : join "" file = file := by
  rw [join, hfile.isAbsolute]
  simp

/-- **A file in a directory is one component more.** -/
theorem components_join (base : String) (hfile : IsFileName file.toList) :
    components (join base file) = components base ++ [.normal file.toList] := by
  have hpieces : pieces file.toList = [file.toList] := pieces_of_notMem hfile.noSlash
  by_cases hne : base = ""
  · subst hne
    rw [join_empty hfile, components_of_pieces hpieces (.inl hfile.ne_nil),
      hfile.firstComponents_eq]
    rfl
  · obtain ⟨directory, hjoin, hdirectory⟩ := exists_toList_join hne hfile
    obtain ⟨p, ps, hp⟩ := List.exists_cons_of_ne_nil (pieces_ne_nil directory)
    have hbase : components base = firstComponents p ++ ps.filterMap component? := by
      rcases hdirectory with hplain | hslash
      · refine components_of_pieces (hplain ▸ hp) (Decidable.not_and_iff_not_or_not.1 ?_)
        rintro ⟨rfl, rfl⟩
        rw [eq_nil_of_pieces hp, String.toList_eq_nil_iff] at hplain
        exact hne hplain
      · -- the empty piece behind the last slash is no component
        have hlast : pieces base.toList = p :: (ps ++ [[]]) := by
          rw [hslash, pieces_append_slash, hp]
          rfl
        have hnothing : component? [] = none := rfl
        rw [components_of_pieces hlast (.inr (List.append_ne_nil_of_right_ne_nil _ nofun)),
          List.filterMap_append, List.filterMap_cons_none hnothing, List.filterMap_nil,
          List.append_nil]
    have hpath : pieces (join base file).toList = p :: (ps ++ [file.toList]) := by
      rw [hjoin, pieces_append_slash, hp, hpieces]
      rfl
    rw [components_of_pieces hpath (.inr (List.append_ne_nil_of_right_ne_nil _ nofun)), hbase,
      List.filterMap_append, List.filterMap_cons_some hfile.component?_eq, List.filterMap_nil,
      List.append_assoc]

end DebugCatalog.Path
