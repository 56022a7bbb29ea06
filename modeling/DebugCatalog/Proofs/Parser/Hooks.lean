import DebugCatalog.Parser.Run
import DebugCatalog.Proofs.Steps

/-!
# Hooks only look on

A hook sees each finding before it is merged, and may do anything in its monad; only when it
fails, the run stops.  What is merged does not depend on it.  So in any lawful monad a run with a
hook is the hook's calls, one for each parser in their order, and then the same result as
without it (`runParsersWith_eq`).

A hook that has a state and may fail can be made to write down its calls (`recording`): what it
was shown and what it answered.  `calls_of_runParsersWith` says what is then found written down,
in whatever state the hook begins.  Either all parsers are there with what each found on its own,
or those up to the first at which the hook failed, and what parsers come after that one makes
no difference.
-/

namespace DebugCatalog

section Hooks

variable {m : Type → Type} [Monad m] [LawfulMonad m]

theorem runParsersOnto_eq (hook : Finding → m PUnit) (v : Image) (merged : Collector)
    (ps : List Parser) : runParsersOnto hook v merged ps =
      (ps.forM fun p => hook (p.finding v)) >>= fun _ =>
        pure (runParsersOnto (m := Id) (fun _ => pure ⟨⟩) v merged ps) := by
  induction ps generalizing merged with
  | nil =>
    change pure (merged, []) = (pure PUnit.unit : m PUnit) >>= fun _ => pure (merged, [])
    rw [pure_bind]
  | cons p ps ih =>
    change _ = (hook (p.finding v) >>= fun _ => ps.forM fun p => hook (p.finding v)) >>= _
    rw [bind_assoc, runParsersOnto]
    refine congrArg _ (funext fun _ => ?_)
    dsimp only
    rw [ih, bind_assoc]
    refine congrArg _ (funext fun _ => ?_)
    rw [pure_bind]
    rfl

/-- **A hook does not change what is found.** -/
theorem runParsersWith_eq (hook : Finding → m PUnit) (ps : List Parser) (v : Image) :
    runParsersWith hook ps v =
      (ps.forM fun p => hook (p.finding v)) >>= fun _ => pure (runParsers ps v) :=
  runParsersOnto_eq hook v .empty ps

end Hooks

/-! ### Calls that are written down -/

/-- A call of a hook: what it was shown, and what it answered. -/
structure Call (ε : Type) where
  parser : Parser
  collector : Collector
  error : Option String
  answer : Except ε PUnit

/-- The call for what a parser adds to an empty collector. -/
def Parser.ownCall {ε : Type} (p : Parser) (v : Image) (answer : Except ε PUnit) : Call ε where
  parser := p
  collector := (p.parseInto .empty v).1
  error := (p.parseInto .empty v).2.map Parser.Error.message
  answer

section Calls

variable {ε σ : Type} (hook : Finding → ExceptT ε (StateM σ) PUnit) (v : Image)

/-- The hook as it is, with a list of its calls beside its state. -/
def recording (f : Finding) : ExceptT ε (StateM (σ × List (Call ε))) PUnit :=
  ExceptT.mk fun (s, calls) =>
    let (answer, s') := exec (hook f) s
    (answer, s', calls ++
      [{ parser := f.parser, collector := f.collector, error := f.errorMessage, answer }])

/-- One call: the hook does what it did, and the call is written down. -/
theorem exec_recording (p : Parser) (s : σ) (calls : List (Call ε)) :
    exec (recording hook (p.finding v)) (s, calls) =
      ((exec (hook (p.finding v)) s).1, (exec (hook (p.finding v)) s).2,
        calls ++ [p.ownCall v (exec (hook (p.finding v)) s).1]) := rfl

/-- All calls: they go through, or they stop with the first that fails. -/
theorem exec_forM_recording (ps : List Parser) (s : σ) (calls : List (Call ε)) :
    (∃ s', exec (ps.forM fun p => hook (p.finding v)) s = (.ok ⟨⟩, s') ∧
      exec (ps.forM fun p => recording hook (p.finding v)) (s, calls) =
        (.ok ⟨⟩, s', calls ++ ps.map fun p => p.ownCall v (.ok ⟨⟩))) ∨
    ∃ before p after e s', ps = before ++ p :: after ∧
      exec (ps.forM fun p => hook (p.finding v)) s = (.error e, s') ∧
      ∀ later, exec ((before ++ p :: later).forM fun p => recording hook (p.finding v)) (s, calls) =
        (.error e, s',
          calls ++ ((before.map fun q => q.ownCall v (.ok ⟨⟩)) ++ [p.ownCall v (.error e)])) := by
  induction ps generalizing s calls with
  | nil => exact .inl ⟨s, rfl, by rw [List.map_nil, List.append_nil]; rfl⟩
  | cons p ps ih =>
    -- The first call ends the run, or the other calls begin in the state that it leaves.
    have hrecorded := exec_recording hook v p s calls
    cases hcall : exec (hook (p.finding v)) s with
    | mk answer s₁ =>
      rw [hcall] at hrecorded
      cases answer with
      | error e =>
        exact .inr ⟨[], p, ps, e, s₁, rfl, exec_bind_error hcall,
          fun later => exec_bind_error hrecorded⟩
      | ok u =>
        rcases ih s₁ (calls ++ [p.ownCall v (.ok u)]) with
          ⟨s', hrun, hcalls⟩ | ⟨before, q, after, e, s', rfl, hrun, hcalls⟩
        · refine .inl ⟨s', (exec_bind_ok hcall).trans hrun, ?_⟩
          refine ((exec_bind_ok hrecorded).trans hcalls).trans ?_
          rw [List.append_assoc]
          rfl
        · refine .inr ⟨p :: before, q, after, e, s', rfl, (exec_bind_ok hcall).trans hrun, ?_⟩
          intro later
          refine ((exec_bind_ok hrecorded).trans (hcalls later)).trans ?_
          rw [List.append_assoc]
          rfl

/-- **A hook is called for one parser after the other until it fails.**  Each call shows what the
parser found on its own.  The run ends with the first failure, and with the result of
`runParsers` if there is none. -/
theorem calls_of_runParsersWith (ps : List Parser) (s : σ) :
    ∃ result s' calls,
      exec (runParsersWith hook ps v) s = (result, s') ∧
      exec (runParsersWith (recording hook) ps v) (s, []) = (result, s', calls) ∧
      ((result = .ok (runParsers ps v) ∧ calls = ps.map fun p => p.ownCall v (.ok ⟨⟩)) ∨
        ∃ before p after e, ps = before ++ p :: after ∧ result = .error e ∧
          calls = (before.map fun q => q.ownCall v (.ok ⟨⟩)) ++ [p.ownCall v (.error e)] ∧
          ∀ later, exec (runParsersWith (recording hook) (before ++ p :: later) v) (s, []) =
            (.error e, s', calls)) ∧
      ((∀ f s, (exec (hook f) s).1 = .ok ⟨⟩) → result = .ok (runParsers ps v)) := by
  rw [runParsersWith_eq, runParsersWith_eq]
  rcases exec_forM_recording hook v ps s [] with
    ⟨s', hrun, hcalls⟩ | ⟨before, p, after, e, s', rfl, hrun, hcalls⟩
  · exact ⟨_, s', _, exec_bind_ok hrun, exec_bind_ok hcalls, .inl ⟨rfl, rfl⟩, fun _ => rfl⟩
  · refine ⟨_, s', _, exec_bind_error hrun, exec_bind_error (hcalls after),
      .inr ⟨before, p, after, e, rfl, rfl, rfl, fun later => ?_⟩, ?_⟩
    · rw [runParsersWith_eq]
      exact exec_bind_error (hcalls later)
    · intro hnever
      have hall := exec_forM (fun q s => Prod.ext (hnever (q.finding v) s) rfl)
        (before ++ p :: after) s
      rw [hrun] at hall
      cases hall

/-- A parser that finds nothing. -/
def idle (name : String) : Parser where
  registration := 0
  name
  behavior :=
    { judge := fun _ => .accepts
      pass := fun _ _ => { additions := [], ending := .finished } }

/-- A hook that has room for one finding. -/
def roomForOne (_ : Finding) : ExceptT String (StateM Nat) PUnit := do
  if (← get) == 0 then throw "no room"
  modify (· - 1)

example : ((exec (runParsersWith (recording roomForOne) [idle "symbols", idle "btf", idle "dwarf"] v)
    (1, [])).2.2.map fun call => (call.parser.name, call.error, call.answer.isOk)) =
      [("symbols", none, true), ("btf", none, false)] := by rfl

end Calls

end DebugCatalog
