import DebugCatalog.Ingest.Basic
import DebugCatalog.Proofs.Parser.Registry
import DebugCatalog.Proofs.Results

/-!
# Which parsers an ingest selects

`Selects` says it without a program: parsers that were asked for must all be there and accept
the image, those of the project must all be there, and of the others nothing is asked.  One rule
stands for each way in which this ends, and its result is the one that `select` has
(`select_eq_iff_selects`).

* `parser_eq_ok_iff`, `parser_eq_error_iff`: what a registry says of a name.
* `requested_eq_ok_iff`, `requested_eq_error_iff`: what becomes of a name that was asked for.
* `find?_of_select`, `names_of_select`: the parsers that are selected are found in the registry
  under their names, and those that were asked for come in that order.

Whether a parser accepts the image is up to its `judge`.  It may break down over the question,
and then it does not accept (`accepts_iff`).
-/

namespace DebugCatalog

namespace Ingest

variable {r : Registry} {v : Image} {name : String} {defaults names : List String} {p : Parser}
  {ps : List Parser}

/-- A breakdown over the question is as good as a refusal. -/
theorem accepts_iff (p : Parser) (v : Image) :
    p.accepts v = true ↔ p.behavior.judge v = .accepts := by
  unfold Parser.accepts
  cases p.behavior.judge v with
  | accepts => exact ⟨fun _ => rfl, fun _ => rfl⟩
  | rejects => exact ⟨nofun, nofun⟩
  | brokeDown => exact ⟨nofun, nofun⟩

/-! ### The parser of a name -/

/-- The registry has the parser, under this name. -/
structure Registered (r : Registry) (name : String) (p : Parser) : Prop where
  listed : p ∈ r.list
  named : p.name = name

/-- A registered parser that accepts the image. -/
structure Fits (r : Registry) (v : Image) (name : String) (p : Parser) : Prop
    extends Registered r name p where
  judged : p.behavior.judge v = .accepts

/-- Why there is no parser of this name to run. -/
inductive Refused (r : Registry) (v : Image) (name : String) : Parser.Error → Prop
  | unknown (h : name ∉ r.names) : Refused r v name (.unknown name)
  | notValid {p : Parser} (hp : Registered r name p) (h : p.behavior.judge v ≠ .accepts) :
      Refused r v name (.notValid name v.name)

theorem parser_eq_ok_iff (hr : r.Reachable) : r.parser name = .ok p ↔ Registered r name p :=
  hr.parser_eq_ok_iff.trans ⟨fun ⟨hlisted, hnamed⟩ => ⟨hlisted, hnamed⟩,
    fun h => ⟨h.listed, h.named⟩⟩

theorem parser_eq_error_iff (hr : r.Reachable) {e : Parser.Error} :
    r.parser name = .error e ↔ name ∉ r.names ∧ e = .unknown name := by
  by_cases hname : name ∈ r.names
  · obtain ⟨p, -, -, hp⟩ := hr.indexed.parser_of_mem name hname
    rw [hp]
    exact ⟨nofun, fun h => absurd hname h.1⟩
  · rw [(hr.indexed.parser_of_notMem name hname).2]
    constructor
    · rintro ⟨rfl⟩
      exact ⟨hname, rfl⟩
    · rintro ⟨-, rfl⟩
      rfl

/-! ### Parsers that were asked for -/

theorem requested_eq_ok_iff (hr : r.Reachable) : requested r v name = .ok p ↔ Fits r v name p := by
  rw [requested]
  constructor
  · intro h
    split at h
    · cases h
    · next q hq =>
      split at h
      · next haccepts =>
        cases h
        exact ⟨(parser_eq_ok_iff hr).1 hq, (accepts_iff p v).1 haccepts⟩
      · cases h
  · rintro ⟨hp, hjudged⟩
    rw [(parser_eq_ok_iff hr).2 hp]
    exact if_pos ((accepts_iff p v).2 hjudged)

theorem requested_eq_error_iff (hr : r.Reachable) {e : Error} :
    requested r v name = .error e ↔ ∃ cause, Refused r v name cause ∧ e = .parser cause := by
  rw [requested]
  constructor
  · intro h
    split at h
    · next cause hcause =>
      cases h
      obtain ⟨hname, rfl⟩ := (parser_eq_error_iff hr).1 hcause
      exact ⟨_, .unknown hname, rfl⟩
    · next p hp =>
      split at h
      · cases h
      · next hrefuses =>
        cases h
        rw [accepts_iff] at hrefuses
        exact ⟨_, .notValid ((parser_eq_ok_iff hr).1 hp) hrefuses, rfl⟩
  · rintro ⟨cause, hrefused, rfl⟩
    cases hrefused with
    | unknown hname => rw [(parser_eq_error_iff hr).2 ⟨hname, rfl⟩]
    | notValid hp hrefuses =>
      rw [(parser_eq_ok_iff hr).2 hp]
      exact if_neg fun haccepts => hrefuses ((accepts_iff _ v).1 haccepts)

/-! ### The three ways to select -/

/-- What is selected must not be empty. -/
def atLeastOne (v : Image) (ps : List Parser) : Except Error (List Parser) :=
  if ps.isEmpty then .error (.noParsers v.name) else .ok ps

theorem atLeastOne_of_ne_nil (h : ps ≠ []) : atLeastOne v ps = .ok ps :=
  if_neg (by rwa [List.isEmpty_iff])

/-- If parsers were asked for, all of them run or none, so one is there. -/
theorem select_of_names (h : names ≠ []) :
    select r defaults v names = names.mapM (requested r v) := by
  obtain ⟨name, rest, rfl⟩ := List.exists_cons_of_ne_nil h
  change ((name :: rest).mapM (requested r v) >>= atLeastOne v) = _
  cases hall : (name :: rest).mapM (requested r v) with
  | error e => rfl
  | ok ps =>
    cases forall₂_of_mapM hall
    exact atLeastOne_of_ne_nil (v := v) (List.cons_ne_nil _ _)

theorem select_of_defaults (h : defaults ≠ []) :
    select r defaults v [] = defaultParsers r v defaults >>= atLeastOne v := by
  obtain ⟨name, rest, rfl⟩ := List.exists_cons_of_ne_nil h
  rfl

theorem select_of_none (r : Registry) (v : Image) :
    select r [] v [] = atLeastOne v (r.parsersFor v) := rfl

/-- The parsers without those that do not accept the image, if any are left. -/
inductive Filtered (v : Image) (ps : List Parser) : Except Error (List Parser) → Prop
  | some {p : Parser} (hp : p ∈ ps) (h : p.behavior.judge v = .accepts) :
      Filtered v ps (.ok (ps.filter fun p => p.accepts v))
  | none (h : ∀ p ∈ ps, p.behavior.judge v ≠ .accepts) : Filtered v ps (.error (.noParsers v.name))

theorem filter_accepts_ne_nil (hp : p ∈ ps) (h : p.behavior.judge v = .accepts) :
    (ps.filter fun p => p.accepts v) ≠ [] :=
  List.ne_nil_of_mem (List.mem_filter.2 ⟨hp, (accepts_iff p v).2 h⟩)

theorem filter_accepts_eq_nil (h : ∀ p ∈ ps, p.behavior.judge v ≠ .accepts) :
    (ps.filter fun p => p.accepts v) = [] :=
  List.filter_eq_nil_iff.2 fun p hp haccepts => h p hp ((accepts_iff p v).1 haccepts)

theorem filtered_atLeastOne (v : Image) (ps : List Parser) :
    Filtered v ps (atLeastOne v (ps.filter fun p => p.accepts v)) := by
  by_cases h : ∃ p ∈ ps, p.behavior.judge v = .accepts
  · obtain ⟨p, hp, hjudged⟩ := h
    rw [atLeastOne_of_ne_nil (filter_accepts_ne_nil hp hjudged)]
    exact .some hp hjudged
  · have hnone : ∀ p ∈ ps, p.behavior.judge v ≠ .accepts := fun p hp hjudged => h ⟨p, hp, hjudged⟩
    rw [filter_accepts_eq_nil hnone]
    exact .none hnone

namespace Filtered

theorem eq {result : Except Error (List Parser)} (h : Filtered v ps result) :
    atLeastOne v (ps.filter fun p => p.accepts v) = result := by
  cases h with
  | some hp hjudged => exact atLeastOne_of_ne_nil (filter_accepts_ne_nil hp hjudged)
  | none hnone =>
    rw [filter_accepts_eq_nil hnone]
    rfl

theorem valid {known : List Parser} (h : Filtered v known (.ok ps)) :
    ps ≠ [] ∧ ∀ p ∈ ps, p ∈ known ∧ p.behavior.judge v = .accepts := by
  cases h with
  | some hp hjudged =>
    refine ⟨filter_accepts_ne_nil hp hjudged, fun q hq => ?_⟩
    obtain ⟨hknown, haccepts⟩ := List.mem_filter.1 hq
    exact ⟨hknown, (accepts_iff q v).1 haccepts⟩

end Filtered

/-- Which parsers run if these names were asked for, or why none do. -/
inductive Selects (r : Registry) (v : Image) (defaults : List String) :
    List String → Except Error (List Parser) → Prop
  /-- All that were asked for fit, and come as they were asked for. -/
  | requested {names : List String} {ps : List Parser} (hnames : names ≠ [])
      (h : List.Forall₂ (Fits r v) names ps) : Selects r v defaults names (.ok ps)
  /-- The first of them that is refused. -/
  | refused {before after : List String} {name : String} {cause : Parser.Error}
      (hbefore : ∀ n ∈ before, ∃ p, Fits r v n p) (h : Refused r v name cause) :
      Selects r v defaults (before ++ name :: after) (.error (.parser cause))
  /-- The first parser of the project that is not there. -/
  | unknownDefault {before after : List String} {name : String}
      (hdefaults : defaults = before ++ name :: after) (hbefore : ∀ n ∈ before, n ∈ r.names)
      (h : name ∉ r.names) : Selects r v defaults [] (.error (.parser (.unknown name)))
  /-- All parsers of the project are there, in the order of the project. -/
  | defaults {ps : List Parser} {result : Except Error (List Parser)} (hdefaults : defaults ≠ [])
      (hps : List.Forall₂ (Registered r) defaults ps) (h : Filtered v ps result) :
      Selects r v defaults [] result
  | all {result : Except Error (List Parser)} (hdefaults : defaults = [])
      (h : Filtered v r.list result) : Selects r v defaults [] result

theorem eq_of_selects (hr : r.Reachable) {result : Except Error (List Parser)}
    (h : Selects r v defaults names result) : select r defaults v names = result := by
  cases h with
  | requested hnames hfit =>
    rw [select_of_names hnames]
    exact mapM_eq_ok_iff.2 (hfit.imp fun name p => (requested_eq_ok_iff hr).2)
  | @refused before after name cause hbefore hrefused =>
    rw [select_of_names (List.append_ne_nil_of_right_ne_nil _ (List.cons_ne_nil _ _))]
    refine mapM_eq_error_iff.2 ⟨before, name, after, rfl, fun n hn => ?_, ?_⟩
    · obtain ⟨p, hp⟩ := hbefore n hn
      exact ⟨p, (requested_eq_ok_iff hr).2 hp⟩
    · exact (requested_eq_error_iff hr).2 ⟨cause, hrefused, rfl⟩
  | @unknownDefault before after name hdefaults hbefore hunknown =>
    subst hdefaults
    have hlookups : (before ++ name :: after).mapM r.parser = .error (.unknown name) := by
      refine mapM_eq_error_iff.2 ⟨before, name, after, rfl, fun n hn => ?_, ?_⟩
      · obtain ⟨p, -, -, hp⟩ := hr.indexed.parser_of_mem n (hbefore n hn)
        exact ⟨p, hp⟩
      · exact (parser_eq_error_iff hr).2 ⟨hunknown, rfl⟩
    rw [select_of_defaults (List.append_ne_nil_of_right_ne_nil _ (List.cons_ne_nil _ _)),
      defaultParsers, hlookups]
    rfl
  | defaults hdefaults hps hfiltered =>
    have hlookups := mapM_eq_ok_iff.2 (hps.imp fun name p => (parser_eq_ok_iff hr).2)
    rw [select_of_defaults hdefaults, defaultParsers, hlookups]
    exact hfiltered.eq
  | all hdefaults hfiltered =>
    subst hdefaults
    exact hfiltered.eq

/-- The rules leave nothing out. -/
theorem selects_select (hr : r.Reachable) (v : Image) (defaults names : List String) :
    Selects r v defaults names (select r defaults v names) := by
  rcases eq_or_ne names [] with rfl | hnames
  · rcases eq_or_ne defaults [] with rfl | hdefaults
    · exact .all rfl (filtered_atLeastOne v r.list)
    · rw [select_of_defaults hdefaults, defaultParsers]
      cases hlookups : defaults.mapM r.parser with
      | error e =>
        obtain ⟨before, name, after, hsplit, hbefore, hname⟩ := mapM_eq_error_iff.1 hlookups
        obtain ⟨hunknown, rfl⟩ := (parser_eq_error_iff hr).1 hname
        refine .unknownDefault hsplit (fun n hn => ?_) hunknown
        obtain ⟨p, hp⟩ := hbefore n hn
        have hregistered := (parser_eq_ok_iff hr).1 hp
        exact hregistered.named ▸ List.mem_map_of_mem hregistered.listed
      | ok ps =>
        have hps := (forall₂_of_mapM hlookups).imp fun name p => (parser_eq_ok_iff hr).1
        exact .defaults hdefaults hps (filtered_atLeastOne v ps)
  · rw [select_of_names hnames]
    cases hall : names.mapM (requested r v) with
    | error e =>
      obtain ⟨before, name, after, rfl, hbefore, hname⟩ := mapM_eq_error_iff.1 hall
      obtain ⟨cause, hrefused, rfl⟩ := (requested_eq_error_iff hr).1 hname
      refine .refused (fun n hn => ?_) hrefused
      obtain ⟨p, hp⟩ := hbefore n hn
      exact ⟨p, (requested_eq_ok_iff hr).1 hp⟩
    | ok ps =>
      exact .requested hnames ((forall₂_of_mapM hall).imp fun name p => (requested_eq_ok_iff hr).1)

/-! ### What is selected -/

/-- Whichever way they were selected, parsers are registered and accept the image. -/
theorem valid_of_selects (h : Selects r v defaults names (.ok ps)) :
    ps ≠ [] ∧ ∀ p ∈ ps, p ∈ r.list ∧ p.behavior.judge v = .accepts := by
  cases h with
  | requested hnames hfit =>
    constructor
    · rintro rfl
      cases hfit
      exact hnames rfl
    · intro p hp
      obtain ⟨name, -, hname⟩ := exists_of_forall₂ hfit.flip hp
      exact ⟨hname.listed, hname.judged⟩
  | defaults _ hps hleft =>
    obtain ⟨hsome, hvalid⟩ := hleft.valid
    refine ⟨hsome, fun p hp => ?_⟩
    obtain ⟨hknown, hjudged⟩ := hvalid p hp
    obtain ⟨name, -, hname⟩ := exists_of_forall₂ hps.flip hknown
    exact ⟨hname.listed, hjudged⟩
  | all _ hleft => exact hleft.valid

/-- **What is selected, and why nothing is.**  Parsers that were asked for are selected exactly if
each of them fits, and whatever is selected is registered, accepts the image and is not empty. -/
theorem select_eq_iff_selects (hr : r.Reachable) (v : Image) (defaults names : List String) :
    (∀ result, select r defaults v names = result ↔ Selects r v defaults names result) ∧
      (names ≠ [] → ((∃ ps, select r defaults v names = .ok ps) ↔
        ∀ name ∈ names, ∃ p, Fits r v name p)) ∧
      (∀ ps, select r defaults v names = .ok ps →
        ps ≠ [] ∧ ∀ p ∈ ps, p ∈ r.list ∧ p.behavior.judge v = .accepts) ∧
      ∀ p : Parser, p.accepts v = true ↔ p.behavior.judge v = .accepts := by
  refine ⟨fun result => ⟨?_, eq_of_selects hr⟩, fun hnames => ?_, fun ps hps => ?_,
    fun p => accepts_iff p v⟩
  · rintro rfl
    exact selects_select hr v defaults names
  · rw [select_of_names hnames]
    refine exists_mapM_iff_of_forall₂ (List.forall₂_same.2 fun name _ => ?_)
    exact exists_congr fun p => requested_eq_ok_iff hr
  · have hselects := selects_select hr v defaults names
    rw [hps] at hselects
    exact valid_of_selects hselects

/-- An image without bytes. -/
def emptyImage : Image :=
  { Image.Headers.raw with name := "kernel", path := none, bytes := .empty }

/-- A parser that finds nothing, and says this of every image. -/
def answering (registration : Nat) (name : String) (verdict : Parser.Verdict) : Parser where
  registration
  name
  behavior :=
    { judge := fun _ => verdict
      pass := fun _ _ => { additions := [], ending := .finished } }

/-- One parser that accepts every image, and one that breaks down over the question. -/
def firmAndBrittle : Registry :=
  { parsers := (KeyedList.empty.push (answering 0 "dwarf" .accepts)).push
      (answering 1 "btf" .brokeDown) }

theorem reachable_firmAndBrittle : firmAndBrittle.Reachable := by
  have hfirm := Registry.Reachable.empty.push (answering 0 "dwarf" .accepts) (by decide)
    fun p hp => absurd hp List.not_mem_nil
  exact hfirm.push (answering 1 "btf" .brokeDown) (by decide)
    (List.forall_mem_singleton.2 (by decide))

/-- A project leaves out the parser that breaks down, and who asks for it is told so, before
anything is said of a name that nobody has. -/
theorem select_firmAndBrittle :
    select firmAndBrittle ["dwarf", "btf"] emptyImage [] = .ok [answering 0 "dwarf" .accepts] ∧
      select firmAndBrittle [] emptyImage ["dwarf", "dwarf", "btf", "stabs"] =
        .error (.parser (.notValid "btf" "kernel")) := by
  have hdwarf : Registered firmAndBrittle "dwarf" (answering 0 "dwarf" .accepts) :=
    ⟨List.mem_cons_self .., rfl⟩
  have hbtf : Registered firmAndBrittle "btf" (answering 1 "btf" .brokeDown) :=
    ⟨List.mem_cons_of_mem _ (List.mem_cons_self ..), rfl⟩
  constructor
  · refine ((select_eq_iff_selects reachable_firmAndBrittle emptyImage _ _).1 _).2 ?_
    exact .defaults (List.cons_ne_nil _ _) (.cons hdwarf (.cons hbtf .nil))
      (.some (List.mem_cons_self ..) rfl)
  · refine ((select_eq_iff_selects reachable_firmAndBrittle emptyImage _ _).1 _).2 ?_
    have hfits : ∀ n ∈ ["dwarf", "dwarf"], ∃ p, Fits firmAndBrittle emptyImage n p := by
      intro n hn
      obtain rfl : n = "dwarf" := by simpa using hn
      exact ⟨_, hdwarf, rfl⟩
    exact .refused hfits (.notValid hbtf nofun)

/-- Parsers that are selected are found under their names. -/
theorem find?_of_select (hr : r.Reachable) (h : select r defaults v names = .ok ps) :
    ∀ p ∈ ps, r.find? p.name = some p := by
  have hselects := selects_select hr v defaults names
  rw [h] at hselects
  intro p hp
  exact (hr.sound.find?_eq_some_iff p.name p).2 ⟨((valid_of_selects hselects).2 p hp).1, rfl⟩

/-- Parsers that are asked for are selected in that order. -/
theorem names_of_select (hr : r.Reachable) (h : select r defaults v names = .ok ps)
    (hsome : names ≠ []) : ps.map Parser.name = names := by
  rw [select_of_names hsome] at h
  have hnames := (forall₂_of_mapM h).imp fun name p hp =>
    ((requested_eq_ok_iff hr).1 hp).named.symm
  exact (List.forall₂_eq_eq_eq ▸ List.forall₂_map_right_iff.2 hnames :).symm

end Ingest

end DebugCatalog
