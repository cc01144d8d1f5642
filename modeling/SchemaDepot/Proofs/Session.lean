/-
# The registry that a session shares

Until one is fixed, every step that gets to the shared registry has one built of the
surroundings of that moment. If that fails the step fails in the same way, and nothing is
kept of it. The first one that can be built is fixed, whatever becomes of the step it was
built for. From then on each step is answered as if that registry had been handed to it,
and nothing is built to be shared any more, however the surroundings change
(`Session.run_shares_first`). All this holds as long as the session is not told to forget.

What a step does is said here without the session: how it changes the surroundings, whether
it gets to the shared registry, and what it answers with a registry that it is handed.

Key definitions: `Session.Step.reaches`, `Session.Step.given?`, `Session.surroundings`,
`Session.fixed?`, `Session.Answers`.
Key theorems: `Session.step_snd`, `Session.run_snd`, `Session.answers_step`,
`Session.run_shares_first`.
-/
import SchemaDepot.Proofs.Outcome
import SchemaDepot.Proofs.Registry
import SchemaDepot.Session

namespace SchemaDepot

/-- What is checked before a registry is needed is checked with one as well. -/
theorem Request.answer_of_check_eq_error {q : Request} {e : Error} (h : q.check = .error e)
    (r : Registry) : q.answer r = .fail e := by
  cases q with
  | textualColumns database columnType columnLength =>
    change Scheme.checkTextual database columnType = .error e at h
    simp only [answer, Scheme.textualColumns, h]
    rfl
  | project name number =>
    change Scheme.checkProject name = .error e at h
    simp only [answer, Scheme.project, h]
    rfl
  | overview | lookup | identifiers | templateFor | render | provisionable | schema | benchmark
    | benchmarkRow | plan => cases h

namespace Validation

variable {h : Host}

theorem report_of_build_eq_error {e : Error}
    (he : (Registry.buildDefault h).outcome = .error e) : report h = .error e := by
  have hrun : (run h).outcome = .error e := Run.bind_outcome_eq_error_iff.mpr (Or.inl he)
  unfold report
  dsimp only
  rw [hrun]

theorem report_of_build_eq_ok {r : Registry}
    (hr : (Registry.buildDefault h).outcome = .ok r) :
    report h = (check r).outcome.map fun _ => ⟨0, "OK\n",
      Report.bareLines .warning ((Registry.buildDefault h).records ++ (check r).records)⟩ := by
  have hrun : run h = ⟨(Registry.buildDefault h).records ++ (check r).records,
      (check r).outcome⟩ := by
    change Run.bind (Registry.buildDefault h) check = _
    unfold Run.bind
    rw [hr]
  unfold report
  dsimp only
  rw [hrun]
  cases (check r).outcome with
  | error e => rfl
  | ok _ => rfl

end Validation

namespace Session

/-! ### Steps without a session -/

namespace Step

/-- The step gets to the shared registry; one that asks for something does where its own
arguments are in order. -/
def reaches : Step → Bool
  | .same => true
  | .command arguments => (CommandLine.Options.read arguments).isOk
  | .ask request => request.check.isOk
  | _ => false

/-- The surroundings after a step. -/
def alter (h : Host) : Step → Host
  | .setVariable name value? => h.setVariable name value?
  | .write path bytes => { h with tree := h.tree.write (h.place path) bytes }
  | .makeFolder path => { h with tree := h.tree.makeFolder (h.place path) }
  | .remove path => { h with tree := h.tree.remove (h.place path) }
  | _ => h

/-- The answer to a command, with the registry handed to it. -/
def commandWith (registry : Run Registry) (arguments : List String) : Run Result :=
  match CommandLine.Options.read arguments with
  | .error refusal => pure (.refused refusal)
  | .ok o => .ofExcept ((CommandLine.run o registry).map .report)

/-- The answer to a request, with the registry handed to it. -/
def askWith (registry : Run Registry) (request : Request) : Run Result := do
  let r ← registry
  let a ← request.answer r
  pure (.answer a)

/-- What a step that asks something answers with the registry that is handed to it. -/
def given? (registry : Run Registry) : Step → Option (Run Result)
  | .command arguments => some (commandWith registry arguments)
  | .ask request => some (askWith registry request)
  | _ => none

/-- The registry that a step has built of the surroundings, if it gets so far. -/
def builds? (h : Host) (step : Step) : Option Registry :=
  if step.reaches then (Registry.buildDefault h).outcome.toOption else none

section

variable {arguments : List String} {request : Request}

theorem reaches_command_of_ok {o : CommandLine.Options}
    (h : CommandLine.Options.read arguments = .ok o) : (command arguments).reaches = true := by
  rw [reaches, h]
  rfl

theorem reaches_command_of_error {refusal : CommandLine.Refusal}
    (h : CommandLine.Options.read arguments = .error refusal) :
    (command arguments).reaches = false := by
  rw [reaches, h]
  rfl

theorem reaches_ask_of_ok {u : Unit} (h : request.check = .ok u) : (ask request).reaches = true := by
  rw [reaches, h]
  rfl

theorem reaches_ask_of_error {e : Error} (h : request.check = .error e) :
    (ask request).reaches = false := by
  rw [reaches, h]
  rfl

end

end Step

/-- The surroundings after some steps. -/
def surroundings (h : Host) (steps : List Step) : Host := steps.foldl Step.alter h

/-- The registry that steps fix: the first one that could be built. -/
def fixed? (h : Host) : List Step → Option Registry
  | [] => none
  | step :: steps => step.builds? h <|> fixed? (step.alter h) steps

@[simp] theorem surroundings_cons (h : Host) (step : Step) (steps : List Step) :
    surroundings h (step :: steps) = surroundings (step.alter h) steps := rfl

/-- What later steps fix counts only where the steps before them fix nothing. -/
theorem fixed?_append (h : Host) (front later : List Step) :
    fixed? h (front ++ later) = (fixed? h front <|> fixed? (surroundings h front) later) := by
  induction front generalizing h with
  | nil => rfl
  | cons step front ih =>
    have hrest := ih (step.alter h)
    simp only [List.cons_append, fixed?, hrest, surroundings_cons]
    cases step.builds? h with
    | none => rfl
    | some r => rfl

theorem fixed?_append_of_eq_some {h : Host} {front : List Step} {r : Registry}
    (hr : fixed? h front = some r) (later : List Step) : fixed? h (front ++ later) = some r := by
  rw [fixed?_append, hr]
  rfl

/-! ### One step -/

/-- The session is in these surroundings and shares this registry, which is the only one
that was built to be shared. -/
structure Shares (s : Session) (h : Host) (r? : Option Registry) : Prop where
  host : s.host = h
  held : s.held?.map Prod.snd = r?
  builds : s.builds = if r?.isSome then 1 else 0

theorem shares_start (h : Host) : Shares (start h) h none := ⟨rfl, rfl, rfl⟩

variable {s : Session} {h : Host} {r? : Option Registry} {r : Registry}

/-- A registry that is shared is there for every step, and nothing is built. -/
theorem registry_of_shared (hs : Shares s h (some r)) : s.registry = (pure r, s) := by
  obtain ⟨⟨n, r'⟩, hheld, hr⟩ := Option.map_eq_some_iff.mp hs.held
  have hsame : r' = r := hr
  subst hsame
  simp only [registry, hheld]

theorem registry_fst_of_none (hs : Shares s h none) :
    s.registry.1 = Registry.buildDefault h := by
  have hheld : s.held? = none := Option.map_eq_none_iff.mp hs.held
  cases hbuild : (Registry.buildDefault h).outcome with
  | error e => simp only [registry, hheld, hs.host, hbuild]
  | ok r => simp only [registry, hheld, hs.host, hbuild]

/-- Looking for the registry shares what could be built. -/
theorem registry_snd (hs : Shares s h r?) :
    Shares s.registry.2 h (r? <|> (Registry.buildDefault h).outcome.toOption) := by
  cases r? with
  | some r =>
    rw [registry_of_shared hs]
    exact hs
  | none =>
    have hheld : s.held? = none := Option.map_eq_none_iff.mp hs.held
    cases hbuild : (Registry.buildDefault h).outcome with
    | error e =>
      have hkept : s.registry.2 = s := by simp only [registry, hheld, hs.host, hbuild]
      rw [hkept]
      exact hs
    | ok r =>
      have hbuilds : s.builds = 0 := hs.builds
      have hnew : s.registry.2 = { s with held? := some (0, r), builds := 1 } := by
        simp only [registry, hheld, hs.host, hbuild, hbuilds]
      rw [hnew]
      exact ⟨hs.host, rfl, rfl⟩

theorem look_snd (hs : Shares s h r?) :
    Shares s.look.2 h (r? <|> (Registry.buildDefault h).outcome.toOption) := by
  have hnext := registry_snd hs
  unfold look
  generalize s.registry = found at hnext ⊢
  obtain ⟨run, s'⟩ := found
  -- what was looked at is no part of what is shared
  dsimp only at hnext ⊢
  split
  · exact ⟨hnext.host, hnext.held, hnext.builds⟩
  · exact hnext
  · exact hnext

theorem Step.builds?_of_reaches {step : Step} (hreach : step.reaches = true) (h : Host) :
    step.builds? h = (Registry.buildDefault h).outcome.toOption := if_pos hreach

theorem Step.builds?_of_not_reaches {step : Step} (hreach : step.reaches = false) (h : Host) :
    step.builds? h = none := if_neg (Bool.eq_false_iff.mp hreach)

/-- A step that does not get to the shared registry and leaves what is shared alone. -/
theorem Shares.of_not_reaches {step : Step} (hreach : step.reaches = false) {s' : Session}
    {h' : Host} (hs : Shares s' h' r?) : Shares s' h' (r? <|> step.builds? h) := by
  rw [Step.builds?_of_not_reaches hreach]
  cases r? with
  | none => exact hs
  | some r => exact hs

theorem command_snd (hs : Shares s h r?) (arguments : List String) :
    Shares (s.command arguments).2 h (r? <|> (Step.command arguments).builds? h) := by
  unfold command
  cases hread : CommandLine.Options.read arguments with
  | error refusal => exact Shares.of_not_reaches (Step.reaches_command_of_error hread) hs
  | ok o =>
    rw [Step.builds?_of_reaches (Step.reaches_command_of_ok hread)]
    exact registry_snd hs

theorem ask_snd (hs : Shares s h r?) (request : Request) :
    Shares (s.ask request).2 h (r? <|> (Step.ask request).builds? h) := by
  unfold ask
  cases hcheck : request.check with
  | error e => exact Shares.of_not_reaches (Step.reaches_ask_of_error hcheck) hs
  | ok _ =>
    rw [Step.builds?_of_reaches (Step.reaches_ask_of_ok hcheck)]
    exact registry_snd hs

/-- **What a step leaves shared.** It changes the surroundings as it does by itself, and if
nothing was shared before, what it had built is shared now. -/
theorem step_snd {step : Step} (hkeep : step ≠ .clear) (hs : Shares s h r?) :
    Shares (s.step step).2 (step.alter h) (r? <|> step.builds? h) := by
  cases step with
  | clear => exact absurd rfl hkeep
  | setVariable | write | makeFolder | remove =>
    obtain ⟨rfl, hheld, hbuilds⟩ := hs
    exact Shares.of_not_reaches rfl ⟨rfl, hheld, hbuilds⟩
  | build | settings | validate => exact Shares.of_not_reaches rfl hs
  | same => exact look_snd hs
  | command arguments => exact command_snd hs arguments
  | ask request => exact ask_snd hs request

/-- What a step answers in some surroundings, where a registry is shared or none. -/
structure Answers (h : Host) (shared? : Option Registry) (step : Step) (answer : Run Result) :
    Prop where
  /-- With a shared registry it is what the step answers with this one in its hands. -/
  as_given : ∀ r, shared? = some r → ∀ a, step.given? (pure r) = some a → answer = a
  /-- Without one a step that gets so far answers with the registry that is built now. -/
  as_built : shared? = none → step.reaches = true →
    ∀ a, step.given? (Registry.buildDefault h) = some a → answer = a
  /-- If building fails now, the step fails so too. -/
  fails_as_building : shared? = none → step.reaches = true →
    ∀ e, (Registry.buildDefault h).outcome = .error e → answer.outcome = .error e
  /-- A step that does not get so far answers as it does with any registry. -/
  as_any : step.reaches = false → ∀ r a, step.given? (pure r) = some a → answer = a
  /-- Validating builds a registry of its own: it fails as building does now, or else as
  checking what is built does. -/
  validates : step = .validate →
    (∀ e, (Registry.buildDefault h).outcome = .error e → answer.outcome = .error e) ∧
    ∀ r, (Registry.buildDefault h).outcome = .ok r →
      answer.outcome = (Validation.check r).outcome.map fun _ => .report ⟨0, "OK\n",
        Report.bareLines .warning
          ((Registry.buildDefault h).records ++ (Validation.check r).records)⟩

theorem command_fst (s : Session) (arguments : List String) :
    (s.command arguments).1 = Step.commandWith s.registry.1 arguments := by
  unfold command Step.commandWith
  cases CommandLine.Options.read arguments with
  | error refusal => rfl
  | ok o => rfl

/-- Without a registry a command is answered only where its arguments are refused. -/
theorem command_fst_of_not_reaches (s : Session) {arguments : List String}
    (hreach : (Step.command arguments).reaches = false) (r : Registry) :
    (s.command arguments).1 = Step.commandWith (pure r) arguments := by
  unfold command Step.commandWith
  cases hread : CommandLine.Options.read arguments with
  | error refusal => rfl
  | ok o => cases hreach.symm.trans (Step.reaches_command_of_ok hread)

theorem ask_fst (s : Session) {request : Request} (hreach : (Step.ask request).reaches = true) :
    (s.ask request).1 = Step.askWith s.registry.1 request := by
  unfold ask
  cases hcheck : request.check with
  | error e => cases hreach.symm.trans (Step.reaches_ask_of_error hcheck)
  | ok _ => rfl

theorem ask_fst_of_not_reaches (s : Session) {request : Request}
    (hreach : (Step.ask request).reaches = false) (r : Registry) :
    (s.ask request).1 = Step.askWith (pure r) request := by
  unfold ask
  cases hcheck : request.check with
  | error e =>
    change Run.fail e = do let a ← request.answer r; pure (Result.answer a)
    rw [Request.answer_of_check_eq_error hcheck r]
    rfl
  | ok _ => cases hreach.symm.trans (Step.reaches_ask_of_ok hcheck)

/-- A step that does not get to the shared registry answers as it does with any. -/
theorem step_fst_of_not_reaches (s : Session) {step : Step} (hreach : step.reaches = false)
    {r : Registry} {a : Run Result} (ha : step.given? (pure r) = some a) : (s.step step).1 = a := by
  cases step with
  | command arguments =>
    rw [← Option.some.inj ha]
    exact command_fst_of_not_reaches s hreach r
  | ask request =>
    rw [← Option.some.inj ha]
    exact ask_fst_of_not_reaches s hreach r
  | setVariable | write | makeFolder | remove | clear | same | build | settings | validate =>
    cases ha

/-- A step that gets to the shared registry answers with what it finds there. -/
theorem step_fst_of_reaches (s : Session) {step : Step} (hreach : step.reaches = true)
    {a : Run Result} (ha : step.given? s.registry.1 = some a) : (s.step step).1 = a := by
  cases step with
  | command arguments =>
    rw [← Option.some.inj ha]
    exact command_fst s arguments
  | ask request =>
    rw [← Option.some.inj ha]
    exact ask_fst s hreach
  | setVariable | write | makeFolder | remove | clear | same | build | settings | validate =>
    cases ha

theorem step_fst_outcome_of_error (s : Session) {step : Step} (hreach : step.reaches = true)
    {e : Error} (he : s.registry.1.outcome = .error e) : (s.step step).1.outcome = .error e := by
  cases step with
  | same =>
    change s.look.1.outcome = _
    unfold look
    generalize s.registry = found at he ⊢
    obtain ⟨run, s'⟩ := found
    dsimp only at he ⊢
    rw [he]
  | command arguments =>
    change (s.command arguments).1.outcome = _
    rw [command_fst, Step.commandWith]
    cases hread : CommandLine.Options.read arguments with
    | error refusal => cases hreach.symm.trans (Step.reaches_command_of_error hread)
    | ok o =>
      have hrun : CommandLine.run o s.registry.1 = .error e := by
        unfold CommandLine.run
        rw [he]
      simp only [hrun]
      rfl
  | ask request =>
    change (s.ask request).1.outcome = _
    rw [ask_fst s hreach]
    exact Run.bind_outcome_eq_error_iff.mpr (Or.inl he)
  | setVariable | write | makeFolder | remove | clear | build | settings | validate =>
    cases hreach

/-- **How a step is answered.** -/
theorem answers_step (step : Step) (hs : Shares s h r?) : Answers h r? step (s.step step).1 where
  as_given r hr a ha := by
    subst hr
    cases hreach : step.reaches with
    | false => exact step_fst_of_not_reaches s hreach ha
    | true =>
      have hfound : s.registry.1 = pure r := congrArg Prod.fst (registry_of_shared hs)
      rw [← hfound] at ha
      exact step_fst_of_reaches s hreach ha
  as_built hnone hreach a ha := by
    subst hnone
    rw [← registry_fst_of_none hs] at ha
    exact step_fst_of_reaches s hreach ha
  fails_as_building hnone hreach e he := by
    subst hnone
    rw [← registry_fst_of_none hs] at he
    exact step_fst_outcome_of_error s hreach he
  as_any hreach r a ha := step_fst_of_not_reaches s hreach ha
  validates hstep := by
    subst hstep
    have hanswer : (s.step .validate).1.outcome = (Validation.report h).map .report := by
      rw [← hs.host]
      rfl
    rw [hanswer]
    refine ⟨fun e he => ?_, fun r hr => ?_⟩
    · rw [Validation.report_of_build_eq_error he]
      rfl
    · rw [Validation.report_of_build_eq_ok hr]
      cases (Validation.check r).outcome with
      | error e => rfl
      | ok _ => rfl

/-! ### Runs -/

theorem run_append (s : Session) (front later : List Step) :
    s.run (front ++ later) =
      ((s.run front).1 ++ ((s.run front).2.run later).1, ((s.run front).2.run later).2) := by
  induction front generalizing s with
  | nil => rfl
  | cons step front ih =>
    have hrest := ih (s.step step).2
    simp only [List.cons_append, run, hrest]

theorem length_run (s : Session) (steps : List Step) : (s.run steps).1.length = steps.length := by
  induction steps generalizing s with
  | nil => rfl
  | cons step steps ih => exact congrArg (· + 1) (ih (s.step step).2)

/-- The answer to a step is the one it gives after the steps before it. -/
theorem getElem?_run (s : Session) (front : List Step) (step : Step) (rest : List Step) :
    (s.run (front ++ step :: rest)).1[front.length]? = some ((s.run front).2.step step).1 := by
  have hlength := length_run s front
  rw [run_append]
  dsimp only
  rw [List.getElem?_append_right (Nat.le_of_eq hlength), hlength, Nat.sub_self]
  rfl

/-- **What steps leave shared.** If nothing is forgotten, it is the first registry that could
be built. -/
theorem run_snd {steps : List Step} (hkeep : .clear ∉ steps) (hs : Shares s h r?) :
    Shares (s.run steps).2 (surroundings h steps) (r? <|> fixed? h steps) := by
  induction steps generalizing s h r? with
  | nil =>
    cases r? with
    | none => exact hs
    | some r => exact hs
  | cons step steps ih =>
    obtain ⟨hstep, hrest⟩ := List.ne_and_not_mem_of_not_mem_cons hkeep
    have hnext := step_snd (Ne.symm hstep) hs
    have hall := ih hrest hnext
    cases r? with
    | none => exact hall
    | some r => exact hall

/-- **The registry that a session shares.** Let nothing be forgotten. Each step is answered as
the surroundings of the moment and the registry fixed before it have it; what is fixed stays
fixed, is what the session holds in the end, and is all that was built to be shared. -/
theorem run_shares_first (h : Host) (steps : List Step) (hkeep : .clear ∉ steps) :
    (∀ front step rest, steps = front ++ step :: rest →
      ∃ answer, ((start h).run steps).1[front.length]? = some answer ∧
        Answers (surroundings h front) (fixed? h front) step answer) ∧
    (∀ front later r, steps = front ++ later → fixed? h front = some r →
      fixed? h steps = some r) ∧
    Shares ((start h).run steps).2 (surroundings h steps) (fixed? h steps) := by
  refine ⟨?_, ?_, run_snd hkeep (shares_start h)⟩
  · rintro front step rest rfl
    have hfront : Step.clear ∉ front := fun hmem => hkeep (List.mem_append_left _ hmem)
    have hbefore : Shares ((start h).run front).2 (surroundings h front) (fixed? h front) :=
      run_snd hfront (shares_start h)
    exact ⟨_, getElem?_run (start h) front step rest, answers_step step hbefore⟩
  · rintro front later r rfl hr
    exact fixed?_append_of_eq_some hr later

/-- The folder with one database, without its manifest. -/
def bareHost : Host :=
  { Registry.sampleHost with tree := Registry.sampleHost.tree.remove ["r", "testdbs.yaml"] }

/-- A question that comes too early, then the manifest. -/
def sampleStart : List Step :=
  [.ask (.lookup (.text "a")),
    .write ⟨.top, ["r", "testdbs.yaml"]⟩ "sentinel: a\nfixed:\n  a: a.sql\n".toUTF8]

/-- After these a question that is refused, and a change that comes too late. -/
def sampleFront : List Step :=
  sampleStart ++ [.ask (.lookup (.text "b")), .remove ⟨.top, ["r", "testdbs.yaml"]⟩]

/-- In the end the first question again. -/
def sampleSteps : List Step := sampleFront ++ [.ask (.lookup (.text "a"))]

set_option maxRecDepth 100000 in
/-- The question that is refused fixes a registry, and this one answers the last question,
without its manifest and without a word. -/
theorem run_shares_first_sample :
    Step.clear ∉ sampleSteps ∧
    (∃ r, fixed? bareHost sampleSteps = some r) ∧
    (∃ a, ((start bareHost).run sampleSteps).1[0]? = some a ∧
      a.outcome = .error (.resource (.manifestAbsent "/r/testdbs.yaml"))) ∧
    (∃ a, ((start bareHost).run sampleSteps).1[2]? = some a ∧
      a.outcome = .error (.unknownIdentifier "b")) ∧
    ((start bareHost).run sampleSteps).1[4]? =
      some (pure (.answer (.text "CREATE DATABASE a;"))) := by
  have hkeep : Step.clear ∉ sampleSteps := by simp [sampleSteps, sampleFront, sampleStart]
  obtain ⟨hanswers, hstays, -⟩ := run_shares_first bareHost sampleSteps hkeep
  -- the first question comes where nothing can be built
  have habsent : (Registry.buildDefault bareHost).outcome =
      .error (.resource (.manifestAbsent "/r/testdbs.yaml")) :=
    Outcome.eq_error_of_error? (by decide +kernel)
  obtain ⟨first, hfirst, hearly⟩ := hanswers [] _ _ rfl
  -- the second is the one that a registry is built for
  have hnone : fixed? bareHost sampleStart = none :=
    Option.isNone_iff_eq_none.mp (by decide +kernel)
  have hunknown : (Step.askWith (Registry.buildDefault (surroundings bareHost sampleStart))
      (.lookup (.text "b"))).outcome = .error (.unknownIdentifier "b") :=
    Outcome.eq_error_of_error? (by decide +kernel)
  obtain ⟨second, hsecond, hbuilt⟩ := hanswers sampleStart _ _ rfl
  have hrefused := hbuilt.as_built hnone rfl _ rfl
  -- the last one is answered by that registry
  have hfixed : (fixed? bareHost sampleFront).map (fun r => (r.catalogue.schema "a").toOption) =
      some (some "CREATE DATABASE a;") := by
    decide +kernel
  obtain ⟨r, hr, hschema⟩ := Option.map_eq_some_iff.mp hfixed
  obtain ⟨last, hlast, hlate⟩ := hanswers sampleFront _ _ rfl
  have hgiven := hlate.as_given r hr _ rfl
  have hanswer : Step.askWith (pure r) (.lookup (.text "a")) =
      pure (.answer (.text "CREATE DATABASE a;")) := by
    have hlookup : r.catalogue.lookup (.text "a") = .ok "CREATE DATABASE a;" :=
      Outcome.eq_ok_of_toOption hschema
    change (do
      let a ← Request.ofText (.ofExcept (r.catalogue.lookup (.text "a")))
      pure (Result.answer a)) = _
    rw [hlookup]
    rfl
  refine ⟨hkeep, ⟨r, hstays sampleFront _ r rfl hr⟩, ⟨first, hfirst, ?_⟩, ⟨second, hsecond, ?_⟩, ?_⟩
  · exact hearly.fails_as_building rfl rfl _ habsent
  · rw [hrefused, hunknown]
  · rw [← hanswer, ← hgiven]
    exact hlast

end Session

end SchemaDepot
