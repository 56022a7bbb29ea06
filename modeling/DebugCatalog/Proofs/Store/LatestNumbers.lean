import DebugCatalog.Proofs.Store.Isolation
import Mathlib.Order.Bounds.Basic

/-!
# The numbers of last runs

The last runs over a binary can be asked for in two ways: of one parser, by its name
(`Store.latestRun?`), or of all parsers at once (`Store.latestRuns`).  The first takes the last row
of that parser, and the second goes through all rows and keeps those after which their parser
does not come again.  `latestRuns_of_table` says that they agree.

Both look at the same rows (`runsOver`), where numbers increase.  So the last row has the greatest
number (`getLast?_eq_some_iff_isGreatest`), and `mem_lastOfEach_iff` says that the rows that are
kept are the last ones of their parsers.

Nothing is assumed of the table.  Runs of one parser may be anywhere in it, numbers may be
missing or below zero, and names may be any texts.
-/

namespace DebugCatalog

/-- Of increasing numbers the last is the greatest. -/
theorem getLast?_eq_some_iff_isGreatest {ids : List Int} (h : ids.Pairwise (· < ·)) {id : Int} :
    ids.getLast? = some id ↔ IsGreatest {x | x ∈ ids} id := by
  have hlast : ∀ last, ids.getLast? = some last → IsGreatest {x | x ∈ ids} last := by
    intro last hlast
    obtain ⟨before, rfl⟩ := List.getLast?_eq_some_iff.1 hlast
    refine ⟨List.mem_append_right _ (List.mem_singleton_self last), fun x hx => ?_⟩
    rcases List.mem_append.1 hx with hbefore | hx
    · exact Int.le_of_lt ((List.pairwise_append.1 h).2.2 x hbefore last (List.mem_singleton_self _))
    · exact Int.le_of_eq (List.mem_singleton.1 hx)
  refine ⟨hlast id, fun hid => ?_⟩
  cases hfound : ids.getLast? with
  | none =>
    rw [List.getLast?_eq_none_iff.1 hfound] at hid
    exact absurd hid.1 List.not_mem_nil
  | some last => rw [(hlast last hfound).unique hid]

namespace Store

variable {s : Store} {t : Numbered StoredRun}

/-! ### The last entry of each parser -/

section LastOfEach

variable {xs : List (Int × String)} {parser : String}

theorem any_parser_iff : (xs.any fun x => x.2 == parser) = true ↔ parser ∈ xs.map Prod.snd := by
  rw [List.any_eq_true, List.mem_map]
  exact exists_congr fun x => and_congr_right fun _ => beq_iff_eq

theorem mem_parsers_lastOfEach :
    parser ∈ (lastOfEach xs).map Prod.snd ↔ parser ∈ xs.map Prod.snd := by
  refine ⟨fun h => ((lastOfEach_sublist xs).map Prod.snd).subset h, fun h => ?_⟩
  induction xs with
  | nil => exact h
  | cons x xs ih =>
    obtain ⟨id, first⟩ := x
    rw [lastOfEach]
    rcases List.mem_cons.1 h with rfl | hrest
    · split
      · next hlater => exact ih (any_parser_iff.1 hlater)
      · exact List.mem_cons_self
    · split
      · exact ih hrest
      · exact List.mem_cons_of_mem _ (ih hrest)

theorem nodup_parsers_lastOfEach (xs : List (Int × String)) :
    ((lastOfEach xs).map Prod.snd).Nodup := by
  induction xs with
  | nil => exact List.nodup_nil
  | cons x xs ih =>
    obtain ⟨id, first⟩ := x
    rw [lastOfEach]
    split
    · exact ih
    · next hnone =>
      rw [List.map_cons, List.nodup_cons, mem_parsers_lastOfEach]
      exact ⟨fun hlater => hnone (any_parser_iff.2 hlater), ih⟩

/-- What is kept is the last entry of its parser. -/
theorem mem_lastOfEach_iff {x : Int × String} :
    x ∈ lastOfEach xs ↔ (xs.filter fun y => y.2 == x.2).getLast? = some x := by
  induction xs with
  | nil => simp [lastOfEach]
  | cons y xs ih =>
    obtain ⟨id, first⟩ := y
    rw [lastOfEach, List.filter_cons]
    by_cases hfirst : first = x.2
    · rw [if_pos (beq_iff_eq.2 hfirst), hfirst]
      split
      · next hlater =>
        -- The parser comes again, so what is last in the rest is last here.
        have hne : (xs.filter fun y => y.2 == x.2) ≠ [] := by
          obtain ⟨y, hy, hyx⟩ := List.any_eq_true.1 hlater
          exact List.ne_nil_of_mem (List.mem_filter.2 ⟨hy, hyx⟩)
        rw [ih, List.getLast?_cons_of_ne_nil hne]
      · next hnone =>
        have hnil : (xs.filter fun y => y.2 == x.2) = [] := by
          rw [List.filter_eq_nil_iff]
          exact fun y hy hyx => hnone (List.any_eq_true.2 ⟨y, hy, hyx⟩)
        have hout : x ∉ lastOfEach xs := by
          rw [ih, hnil, List.getLast?_nil]
          exact (Option.some_ne_none x).symm
        rw [hnil, List.mem_cons, or_iff_left hout, List.getLast?_singleton, Option.some_inj,
          eq_comm]
    · have hne : x ≠ (id, first) := by
        rintro rfl
        exact hfirst rfl
      rw [if_neg (mt beq_iff_eq.1 hfirst), ← ih]
      split
      · exact Iff.rfl
      · rw [List.mem_cons, or_iff_right hne]

end LastOfEach

/-! ### The rows over a binary -/

/-- The runs over a binary, as numbers and parsers. -/
def runsOver (t : Numbered StoredRun) (binary : String) : List (Int × String) :=
  (t.rows.filter fun row => row.2.binary == binary).map fun row => (row.1, row.2.parser)

theorem mem_runsOver {binary parser : String} {id : Int} :
    (id, parser) ∈ runsOver t binary ↔
      ∃ row ∈ t.rows, row.1 = id ∧ row.2.binary = binary ∧ row.2.parser = parser := by
  rw [runsOver, List.mem_map]
  constructor
  · rintro ⟨row, hrow, heq⟩
    obtain ⟨hmem, hbinary⟩ := List.mem_filter.1 hrow
    cases heq
    exact ⟨row, hmem, rfl, eq_of_beq hbinary, rfl⟩
  · rintro ⟨row, hrow, rfl, hbinary, rfl⟩
    exact ⟨row, List.mem_filter.2 ⟨hrow, beq_iff_eq.2 hbinary⟩, rfl⟩

theorem pairwise_runsOver (t : Numbered StoredRun) (binary : String) :
    (runsOver t binary).Pairwise fun a b => a.1 < b.1 :=
  List.pairwise_map.2 (t.increasing.filter _)

theorem latestRuns_eq (ht : s.runs = some t) (binary : String) :
    s.latestRuns binary = .ok (lastOfEach (runsOver t binary)) := by
  rw [latestRuns, ht]
  rfl

/-- The last run of a parser is looked for in the same list. -/
theorem latestRun?_eq (ht : s.runs = some t) (binary parser : String) :
    s.latestRun? binary parser =
      .ok (((runsOver t binary).filter fun x => x.2 == parser).getLast?.map Prod.fst) := by
  have hrows : (runsOver t binary).filter (fun x => x.2 == parser) =
      (t.rows.filter fun row => row.2.binary == binary && row.2.parser == parser).map
        fun row => (row.1, row.2.parser) := by
    rw [runsOver, List.filter_map, List.filter_filter]
    congr 2
    funext row
    exact Bool.and_comm _ _
  rw [latestRun?, ht, hrows, List.getLast?_map, Option.map_map]
  rfl

/-! ### Both ways -/

/-- The numbers of the runs of a parser over a binary. -/
def numbersOf (t : Numbered StoredRun) (binary parser : String) : Set Int :=
  {id | ∃ row ∈ t.rows, row.1 = id ∧ row.2.binary = binary ∧ row.2.parser = parser}

theorem setOf_mem_numbers (t : Numbered StoredRun) (binary parser : String) :
    {id | id ∈ ((runsOver t binary).filter fun x => x.2 == parser).map Prod.fst} =
      numbersOf t binary parser := by
  ext id
  rw [numbersOf, Set.mem_ofPred_eq, Set.mem_ofPred_eq, ← mem_runsOver, List.mem_map]
  constructor
  · rintro ⟨x, hx, rfl⟩
    obtain ⟨hmem, hparser⟩ := List.mem_filter.1 hx
    rwa [← eq_of_beq hparser]
  · exact fun hmem => ⟨(id, parser), List.mem_filter.2 ⟨hmem, beq_self_eq_true parser⟩, rfl⟩

/-- The last run of a parser is the one with the greatest number. -/
theorem latestRun?_eq_some_iff (ht : s.runs = some t) {binary parser : String} {id : Int} :
    s.latestRun? binary parser = .ok (some id) ↔ IsGreatest (numbersOf t binary parser) id := by
  have hincreasing : (((runsOver t binary).filter fun x => x.2 == parser).map Prod.fst).Pairwise
      (· < ·) := List.pairwise_map.2 ((pairwise_runsOver t binary).filter _)
  rw [latestRun?_eq ht, ← List.getLast?_map, ← setOf_mem_numbers,
    ← getLast?_eq_some_iff_isGreatest hincreasing]
  exact ⟨Except.ok.inj, congrArg _⟩

theorem latestRun?_eq_none_iff (ht : s.runs = some t) {binary parser : String} :
    s.latestRun? binary parser = .ok none ↔ numbersOf t binary parser = ∅ := by
  rw [latestRun?_eq ht, ← List.getLast?_map, ← setOf_mem_numbers, Set.eq_empty_iff_forall_notMem]
  constructor
  · intro hnone id hid
    rw [List.getLast?_eq_none_iff.1 (Except.ok.inj hnone)] at hid
    exact List.not_mem_nil hid
  · intro hempty
    exact congrArg _ (List.getLast?_eq_none_iff.2 (List.eq_nil_iff_forall_not_mem.2 hempty))

/-- The list has a run exactly if it is the last one of its parser. -/
theorem mem_latestRuns_iff (ht : s.runs = some t) {binary parser : String} {id : Int} :
    (id, parser) ∈ lastOfEach (runsOver t binary) ↔
      s.latestRun? binary parser = .ok (some id) := by
  rw [mem_lastOfEach_iff, latestRun?_eq ht]
  constructor
  · intro hlast
    rw [hlast]
    rfl
  · intro hlast
    obtain ⟨x, hx, rfl⟩ := Option.map_eq_some_iff.1 (Except.ok.inj hlast)
    obtain ⟨-, hparser⟩ := List.mem_filter.1 (List.mem_of_getLast? hx)
    rw [hx, ← eq_of_beq hparser]

/-- **The last runs of all parsers are the last runs of each.**  Whatever the table of runs has,
the list for a binary names each parser that ran over it once and no other, its numbers increase,
and it has a number for a parser exactly if that is the answer for this parser alone.  That answer
is the greatest number of a run of the parser over the binary, or none if there is no such run. -/
theorem latestRuns_of_table (ht : s.runs = some t) (binary : String) :
    ∃ latest, s.latestRuns binary = .ok latest ∧
      (latest.map Prod.snd).Nodup ∧
      (∀ parser, parser ∈ latest.map Prod.snd ↔
        ∃ row ∈ t.rows, row.2.binary = binary ∧ row.2.parser = parser) ∧
      latest.Pairwise (fun a b => a.1 < b.1) ∧
      (∀ id parser, (id, parser) ∈ latest ↔ s.latestRun? binary parser = .ok (some id)) ∧
      ∀ parser, ∃ found, s.latestRun? binary parser = .ok found ∧
        (∀ id, found = some id ↔ IsGreatest (numbersOf t binary parser) id) ∧
        (found = none ↔ numbersOf t binary parser = ∅) := by
  refine ⟨_, latestRuns_eq ht binary, nodup_parsers_lastOfEach _, fun parser => ?_,
    (pairwise_runsOver t binary).sublist (lastOfEach_sublist _),
    fun id parser => mem_latestRuns_iff ht,
    fun parser => ⟨_, latestRun?_eq ht binary parser, ?_, ?_⟩⟩
  · rw [mem_parsers_lastOfEach, List.mem_map]
    constructor
    · rintro ⟨⟨id, parser⟩, hmem, rfl⟩
      obtain ⟨row, hrow, -, hbinary, hparser⟩ := mem_runsOver.1 hmem
      exact ⟨row, hrow, hbinary, hparser⟩
    · rintro ⟨row, hrow, hbinary, hparser⟩
      exact ⟨(row.1, parser), mem_runsOver.2 ⟨row, hrow, rfl, hbinary, hparser⟩, rfl⟩
  · intro id
    rw [← latestRun?_eq_some_iff ht, latestRun?_eq ht]
    exact ⟨congrArg _, Except.ok.inj⟩
  · rw [← latestRun?_eq_none_iff ht, latestRun?_eq ht]
    exact ⟨congrArg _, Except.ok.inj⟩

/-- A store from which runs were deleted: the first and the one between the others. -/
def thinnedStore : Store where
  version := currentVersion
  binaries := some .empty
  runs := some {
    last := 6
    rows := [(2, .ofRecord lastRun), (3, .ofRecord { lastRun with parser := "dwarf" }),
      (4, .ofRecord otherRun), (6, .ofRecord lastRun)]
    increasing := by decide }
  types := some []
  functions := some []
  parameters := some []

/-- The first run of the parser does not count, nor does its run over the other binary. -/
theorem latestRuns_thinnedStore : ∃ latest, thinnedStore.latestRuns "kernel" = .ok latest ∧
    (3, "dwarf") ∈ latest ∧ (6, "symtab") ∈ latest ∧ (2, "symtab") ∉ latest ∧
      "nm" ∉ latest.map Prod.snd := by
  obtain ⟨latest, hlatest, -, hparsers, -, hmem, -⟩ :=
    latestRuns_of_table (s := thinnedStore) rfl "kernel"
  have hsymtab : thinnedStore.latestRun? "kernel" "symtab" = .ok (some 6) := rfl
  refine ⟨latest, hlatest, (hmem _ _).2 rfl, (hmem _ _).2 hsymtab, fun hfirst => ?_, ?_⟩
  · cases hsymtab.symm.trans ((hmem _ _).1 hfirst)
  · rw [hparsers]
    decide

end Store

end DebugCatalog
