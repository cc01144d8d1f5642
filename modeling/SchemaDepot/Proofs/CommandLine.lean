/-
# What a command prints

A command that is carried out prints a complete answer and ends with code 0, and then none
of its records says that something went wrong. Or it prints nothing and ends with code 1,
and then one record does, the last one, which holds the message of the error. An operation
of the depot always ends in one of the two ways, as what it fails with is reported.

There is one exception, an assignment that is nothing: it is not read as an assignment that
is malformed, but breaks the reading. So a command that asks for a template and comes to
such an assignment is not answered at all (`Session.command_reports`).

Key definitions: `CommandLine.Options.task`, `CommandLine.Completes`, `CommandLine.Fails`,
`CommandLine.Reported`, `CommandLine.Stumbles`.
Key theorems: `CommandLine.answer_outcome_eq_ok_iff`, `CommandLine.answer_outcome_eq_error_iff`,
`CommandLine.readGiven_eq_notText_iff`, `CommandLine.answer_orderly`,
`Session.command_reports`.
-/
import SchemaDepot.Proofs.Plan.Everything
import SchemaDepot.Proofs.Session

namespace SchemaDepot

open Outcome

/-! ### Runs that are reported -/

namespace Run

variable {α β : Type}

/-- No record of the run says that something went wrong. -/
def Quiet (x : Run α) : Prop := ∀ record ∈ x.records, record.level ≠ .error

theorem quiet_ofExcept (x : Except Error α) : Quiet (ofExcept x) := fun _ hrecord =>
  absurd hrecord List.not_mem_nil

theorem quiet_emit {record : Log.Record} (h : record.level ≠ .error) : Quiet (emit record) := by
  intro other hother
  rwa [List.mem_singleton.mp hother]

theorem Quiet.bind {x : Run α} {f : α → Run β} (hx : Quiet x) (hf : ∀ a, Quiet (f a)) :
    Quiet (x >>= f) := by
  change Quiet (Run.bind x f)
  unfold Run.bind
  split
  · intro record hrecord
    rcases List.mem_append.mp hrecord with hfirst | hsecond
    · exact hx record hfirst
    · exact hf _ record hsecond
  · exact hx

/-- The run is quiet, and what it may fail with is reported. -/
structure Orderly (x : Run α) : Prop where
  quiet : Quiet x
  reported : ∀ {e : Error}, x.outcome = .error e → CommandLine.isReported e = true

end Run

/-- The operation fails only with what is reported. -/
def Reports {α : Type} (x : Except Error α) : Prop :=
  Ends (fun e => CommandLine.isReported e = true) (fun _ => True) x

namespace Run

variable {α β : Type}

theorem orderly_ofExcept {x : Except Error α} (h : Reports x) : Orderly (ofExcept x) :=
  ⟨quiet_ofExcept x, h.error_of⟩

theorem orderly_pure (a : α) : Orderly (pure a) := orderly_ofExcept (Ends.ok trivial)

theorem orderly_fail {e : Error} (h : CommandLine.isReported e = true) :
    Orderly (fail e : Run α) :=
  orderly_ofExcept (Ends.error h)

theorem orderly_emit {record : Log.Record} (h : record.level ≠ .error) :
    Orderly (emit record) where
  quiet := quiet_emit h
  reported he := by cases he

theorem Orderly.bind {x : Run α} {f : α → Run β} (hx : Orderly x) (hf : ∀ a, Orderly (f a)) :
    Orderly (x >>= f) where
  quiet := hx.quiet.bind fun a => (hf a).quiet
  reported he := by
    rcases bind_outcome_eq_error_iff.mp he with hfirst | ⟨a, -, hsecond⟩
    · exact hx.reported hfirst
    · exact (hf a).reported hsecond

end Run

/-! ### Operations of the library -/

theorem Template.render_orderly (t : Template) (given : Substitutions) (strict : Bool) :
    (t.render given strict).Orderly where
  quiet := by
    have hlevels : ∀ record ∈ t.records given strict,
        record.level = .warning ∨ record.level = .debug := by
      intro record hrecord
      rcases List.mem_append.mp hrecord with hignored | hrendered
      · rw [List.mem_ite_nil_right, List.mem_singleton] at hignored
        exact Or.inl (congrArg Log.Record.level hignored.2)
      · rw [List.mem_ite_nil_right, List.mem_singleton] at hrendered
        exact Or.inr (congrArg Log.Record.level hrendered.2)
    intro record hrecord
    rcases hlevels record hrecord with hlevel | hlevel
    · rw [hlevel]
      decide
    · rw [hlevel]
      decide
  reported he := by
    obtain ⟨fault, tokens, rfl⟩ := Scheme.outcome_eq_error he
    rfl

theorem Registry.render_orderly (r : Registry) (name : String) (given : Template.Substitutions) :
    (r.render name given).Orderly := by
  unfold render TemplateSet.render TemplateSet.named
  cases r.templates.templates.get? name with
  | none => exact Run.orderly_fail rfl
  | some t => exact t.render_orderly given r.templates.strict

namespace Scheme

theorem require_reports (name : String) (v : Value) : Reports (require name v) :=
  Ends.ite (fun _ => Ends.ok trivial) fun _ => Ends.error rfl

theorem checkTextual_reports (database columnType : Value) :
    Reports (checkTextual database columnType) :=
  Ends.bind (require_reports _ _) fun _ _ => require_reports _ _

theorem positiveText_reports (name : String) (n : Int) : Reports (positiveText name (.int n)) := by
  have hwrite : Reports (Decimal.write n) := by
    unfold Decimal.write
    -- the limit is a number too large to be computed
    generalize tenTo Decimal.digitLimit = limit
    exact Ends.ite (fun _ => Ends.ok trivial) fun _ => Ends.error rfl
  have hrefusal : Reports (do
      let shown ← (Value.int n).literal
      .error (.value (.notPositive name shown)) : Except Error String) :=
    Ends.bind hwrite fun _ _ => Ends.error rfl
  exact Ends.ite (fun _ => hwrite) fun _ => hrefusal

theorem schemaNamed_orderly (r : Registry) (x : String) : (schemaNamed r x).Orderly := by
  unfold schemaNamed
  cases r.textualDatabases.get? x with
  | none =>
    apply Run.orderly_ofExcept
    unfold Catalogue.schema
    split
    · exact Ends.ok trivial
    · exact Ends.error rfl
  | some spec =>
    apply (Run.orderly_ofExcept (checkTextual_reports _ _)).bind
    intro _
    apply (Run.orderly_ofExcept (positiveText_reports _ _)).bind
    intro _
    exact r.render_orderly _ _

end Scheme

namespace Plan

theorem make_reports (identifier schema : String) (isSentinel : Bool) :
    Reports (Provision.make identifier schema isSentinel) :=
  Ends.ite (fun _ => Ends.error rfl) fun _ =>
    Ends.ite (fun _ => Ends.error rfl) fun _ => Ends.ok trivial

theorem provision_orderly (r : Registry) (x : String) : (provision r x).Orderly :=
  (Scheme.schemaNamed_orderly r x).bind fun _ => Run.orderly_ofExcept (make_reports _ _ _)

theorem provisions_orderly (r : Registry) (xs : List String) : (provisions r xs).Orderly := by
  induction xs with
  | nil => exact Run.orderly_pure []
  | cons x xs ih =>
    apply (provision_orderly r x).bind
    intro p
    apply ih.bind
    intro ps
    exact Run.orderly_pure (p :: ps)

theorem sentinelProvision_reports (r : Registry) : Reports (sentinelProvision r) := by
  refine Ends.bind (Q := fun _ => True) ?_ fun _ _ => make_reports _ _ _
  unfold Catalogue.schema
  split
  · exact Ends.ok trivial
  · exact Ends.error rfl

theorem ofSet_orderly (r : Registry) (wanted : TextSet) : (ofSet r wanted).Orderly := by
  cases hu : firstUnknown? r.provisionable wanted with
  | some x =>
    rw [ofSet_of_unknown hu]
    exact Run.orderly_fail rfl
  | none =>
    rw [ofSet_of_known hu]
    apply (provisions_orderly r _).bind
    intro ps
    apply (Run.orderly_ofExcept (sentinelProvision_reports r)).bind
    intro last
    have hrecord : (record r (ps ++ [last])).level ≠ .error := by
      change Log.Level.info ≠ .error
      decide
    exact (Run.orderly_emit hrecord).bind fun _ => Run.orderly_pure _

end Plan

/-- Nothing that building logs says that something went wrong: it only logs what went well. -/
theorem Registry.buildDefault_quiet (h : Host) : (buildDefault h).Quiet := by
  have hinfo : Log.Level.info ≠ .error := by decide
  apply (Run.quiet_ofExcept (Settings.resolve h)).bind
  intro settings
  have hload : (Manifest.load h settings.manifestPath).Quiet := by
    apply (Run.quiet_ofExcept _).bind
    intro m
    exact (Run.quiet_emit hinfo).bind fun _ => Run.quiet_ofExcept (.ok m)
  apply hload.bind
  intro m
  apply (Run.quiet_ofExcept _).bind
  intro r
  exact (Run.quiet_emit hinfo).bind fun _ => Run.quiet_ofExcept (.ok r)

theorem Session.registry_quiet (s : Session) : s.registry.1.Quiet := by
  unfold registry
  split
  · exact Run.quiet_ofExcept _
  · have hbuild := Registry.buildDefault_quiet s.host
    dsimp only
    split
    · exact hbuild
    · exact hbuild

namespace CommandLine

variable {r : Registry} {o : Options} {e : Error} {output : String}

/-! ### What is asked for -/

/-- What a command is to print. -/
inductive Task
  | listing
  | schema (identifier : String)
  /-- A template with the values that assignments give. -/
  | rendering (name : String) (assignments : List (Option String))
  | plan
deriving DecidableEq

/-- What some options ask for. -/
def Options.task (o : Options) : Task :=
  if o.list then .listing
  else match given? o.database? with
    | some identifier => .schema identifier
    | .none =>
      match given? o.template? with
      | some name => .rendering name o.assignments
      | .none => .plan

/-- The text is all that a task asks for. -/
inductive Completes (r : Registry) : Task → String → Prop
  /-- A line for each database, and one for each template with its tokens. -/
  | listing : Completes r .listing
      (String.join (r.provisionable.toList.map fun x => x ++ "\n") ++
        String.join (r.templates.toList.map fun t =>
          t.name ++ ": " ++ t.tokens.joined ", " ++ "\n"))
  | schema {x s : String} (hs : (Scheme.schemaNamed r x).outcome = .ok s) :
      Completes r (.schema x) (s ++ "\n")
  | rendering {name s : String} {assignments : List (Option String)} {values : Listing String}
      (hvalues : readGiven assignments = .ok values)
      (hs : (r.render name (values.map .text)).outcome = .ok s) :
      Completes r (.rendering name assignments) (s ++ "\n")
  /-- The schemas of a plan in order, each after a line with its identifier. -/
  | plan {p : Plan} (hp : (Plan.build r .null).outcome = .ok p) :
      Completes r .plan
        (String.join (p.map fun q => "-- database: " ++ q.identifier ++ "\n" ++ (q.schema ++ "\n")))

/-- What a task asks for fails with an error. -/
inductive Fails (r : Registry) : Task → Error → Prop
  | schema {x : String} {e : Error} (he : (Scheme.schemaNamed r x).outcome = .error e) :
      Fails r (.schema x) e
  | assignments {name : String} {assignments : List (Option String)} {e : Error}
      (he : readGiven assignments = .error e) : Fails r (.rendering name assignments) e
  | rendering {name : String} {assignments : List (Option String)} {values : Listing String}
      {e : Error} (hvalues : readGiven assignments = .ok values)
      (he : (r.render name (values.map .text)).outcome = .error e) :
      Fails r (.rendering name assignments) e
  | plan {e : Error} (he : (Plan.build r .null).outcome = .error e) : Fails r .plan e

/-- The answer to a task. -/
def Task.answer (r : Registry) : Task → Run String
  | .listing => pure (CommandLine.listing r)
  | .schema identifier => schemaText r identifier
  | .rendering name assignments => templateText r name assignments
  | .plan => wholePlan r

theorem answer_eq_task_answer (r : Registry) (o : Options) : answer r o = o.task.answer r := by
  unfold answer Options.task
  split
  · rfl
  · cases given? o.database? with
    | some identifier => rfl
    | none =>
      cases given? o.template? with
      | some name => rfl
      | none => rfl

/-- A task ends well exactly with all that it asks for. -/
theorem answer_outcome_eq_ok_iff {task : Task} :
    (task.answer r).outcome = .ok output ↔ Completes r task output := by
  cases task with
  | listing =>
    constructor
    · intro h
      cases h
      exact .listing
    · rintro ⟨⟩
      rfl
  | schema x =>
    change (Scheme.schemaNamed r x >>= fun s => pure (line s)).outcome = _ ↔ _
    rw [Run.bind_outcome_eq_ok_iff]
    constructor
    · rintro ⟨s, hs, h⟩
      cases h
      exact .schema hs
    · rintro ⟨⟩
      exact ⟨_, ‹_›, rfl⟩
  | rendering name assignments =>
    change (templateText r name assignments).outcome = _ ↔ _
    unfold templateText
    simp only [Run.bind_outcome_eq_ok_iff]
    constructor
    · rintro ⟨values, hvalues, s, hs, h⟩
      cases h
      exact .rendering hvalues hs
    · rintro ⟨⟩
      exact ⟨_, ‹_›, _, ‹_›, rfl⟩
  | plan =>
    change (Plan.build r .null >>= fun p => pure (planText p)).outcome = _ ↔ _
    rw [Run.bind_outcome_eq_ok_iff]
    constructor
    · rintro ⟨p, hp, h⟩
      cases h
      exact .plan hp
    · rintro ⟨⟩
      exact ⟨_, ‹_›, rfl⟩

/-- A task fails exactly as what it asks for does. -/
theorem answer_outcome_eq_error_iff {task : Task} :
    (task.answer r).outcome = .error e ↔ Fails r task e := by
  have hpure : ∀ s : String, (pure s : Run String).outcome ≠ .error e := fun s h => by cases h
  cases task with
  | listing =>
    constructor
    · exact fun h => absurd h (hpure _)
    · rintro ⟨⟩
  | schema x =>
    change (Scheme.schemaNamed r x >>= fun s => pure (line s)).outcome = _ ↔ _
    rw [Run.bind_outcome_eq_error_iff]
    constructor
    · rintro (he | ⟨s, -, h⟩)
      · exact .schema he
      · exact absurd h (hpure _)
    · rintro ⟨⟩
      exact Or.inl ‹_›
  | rendering name assignments =>
    change (templateText r name assignments).outcome = _ ↔ _
    unfold templateText
    simp only [Run.bind_outcome_eq_error_iff]
    constructor
    · rintro (he | ⟨values, hvalues, he | ⟨s, -, h⟩⟩)
      · exact .assignments he
      · exact .rendering hvalues he
      · exact absurd h (hpure _)
    · rintro ⟨⟩
      · exact Or.inl ‹_›
      · exact Or.inr ⟨_, ‹_›, Or.inl ‹_›⟩
  | plan =>
    change (Plan.build r .null >>= fun p => pure (planText p)).outcome = _ ↔ _
    rw [Run.bind_outcome_eq_error_iff]
    constructor
    · rintro (he | ⟨p, -, h⟩)
      · exact .plan he
      · exact absurd h (hpure _)
    · rintro ⟨⟩
      exact Or.inl ‹_›

/-! ### Assignments that are nothing -/

/-- The task comes to an assignment that is nothing: all those before it can be read. -/
inductive Stumbles : Task → Prop
  | intro {name : String} {front : List String} {rest : List (Option String)}
      (hfront : ∀ raw ∈ front, ∃ assigned, readAssignment raw = .ok assigned) :
      Stumbles (.rendering name (front.map some ++ none :: rest))

theorem readAssignment_reports (raw : String) :
    Ends (fun e => e = .value (.notAssignment raw)) (fun _ => True) (readAssignment raw) := by
  unfold readAssignment
  split
  · exact Ends.error rfl
  · exact Ends.ite (fun _ => Ends.error rfl) fun _ => Ends.ok trivial

/-- Reading an assignment that may be nothing. -/
def readOne (raw? : Option String) : Except Error (String × String) :=
  match raw? with
  | some raw => readAssignment raw
  | none => .error .notText

theorem readGiven_eq_error_iff {assignments : List (Option String)} :
    readGiven assignments = .error e ↔
      ∃ raw?, Reaches readOne assignments raw? ∧ readOne raw? = .error e := by
  rw [← mapM_eq_error_iff]
  change (assignments.mapM readOne >>= fun es => .ok (Listing.ofList es)) = _ ↔ _
  rw [bind_eq_error_iff]
  simp only [reduceCtorEq, and_false, exists_false, or_false]

/-- Reading assignments fails with the message of one that is malformed, or else it comes to
one that is nothing. -/
theorem readGiven_eq_notText_iff {assignments : List (Option String)} (name : String) :
    readGiven assignments = .error .notText ↔ Stumbles (.rendering name assignments) := by
  rw [readGiven_eq_error_iff]
  constructor
  · rintro ⟨raw?, ⟨front, rest, rfl, hfront⟩, he⟩
    cases raw? with
    | some raw => cases (readAssignment_reports raw).error_of he
    | none =>
      -- what is read is something
      have hsome : ∀ raw? ∈ front, raw?.isSome = true := by
        intro raw? hraw
        obtain ⟨assigned, hread⟩ := hfront raw? hraw
        cases raw? with
        | none => cases hread
        | some raw => rfl
      obtain ⟨texts, rfl⟩ : ∃ texts : List String, front = texts.map some :=
        ⟨front.pmap Option.get hsome, by simp [List.map_pmap]⟩
      exact .intro fun raw hraw => hfront (some raw) (List.mem_map_of_mem hraw)
  · rintro ⟨hfront⟩
    rename_i front rest
    refine ⟨none, ⟨front.map some, rest, rfl, fun raw? hraw => ?_⟩, rfl⟩
    obtain ⟨raw, hmem, rfl⟩ := List.mem_map.mp hraw
    exact hfront raw hmem

theorem readGiven_reports {name : String} {assignments : List (Option String)}
    (h : ¬ Stumbles (.rendering name assignments)) : Reports (readGiven assignments) := by
  refine ⟨fun {e} he => ?_, fun _ => trivial⟩
  obtain ⟨raw?, -, hraw⟩ := readGiven_eq_error_iff.mp he
  cases raw? with
  | some raw =>
    rw [(readAssignment_reports raw).error_of hraw]
    rfl
  | none =>
    cases hraw
    exact absurd ((readGiven_eq_notText_iff name).mp he) h

/-! ### Reports -/

/-- A task that does not stumble is answered, or it is reported why not. -/
theorem answer_orderly {task : Task} (h : ¬ Stumbles task) : (task.answer r).Orderly := by
  cases task with
  | listing => exact Run.orderly_pure _
  | schema x => exact (Scheme.schemaNamed_orderly r x).bind fun _ => Run.orderly_pure _
  | rendering name assignments =>
    apply (Run.orderly_ofExcept (readGiven_reports h)).bind
    intro values
    exact (r.render_orderly name _).bind fun _ => Run.orderly_pure _
  | plan => exact (Plan.ofSet_orderly r _).bind fun _ => Run.orderly_pure _

/-- The report on a task, where some records were there before: all that is asked for, and no
record that something went wrong, or nothing at all, and one such record after the others. -/
inductive Reported (r : Registry) (task : Task) (level : Log.Level) (before : List Log.Record) :
    Report → Prop
  | completed {output : String} {records : List Log.Record} (houtput : Completes r task output)
      (hquiet : ∀ record ∈ before ++ records, record.level ≠ .error) :
      Reported r task level before ⟨0, output, Report.printedLines level (before ++ records)⟩
  | failed {e : Error} {records : List Log.Record} (he : Fails r task e)
      (hquiet : ∀ record ∈ before ++ records, record.level ≠ .error) :
      Reported r task level before ⟨1, "", Report.printedLines level (before ++ records) ++
        ("ERROR:scripts.render_testdb:" ++ e.message ++ "\n")⟩

/-- A record that says that something went wrong is shown by every command. -/
theorem printedLines_append_errorRecord (o : Options) (records : List Log.Record) (e : Error) :
    Report.printedLines (shownLevel o) (records ++ [errorRecord e]) =
      Report.printedLines (shownLevel o) records ++
        ("ERROR:scripts.render_testdb:" ++ e.message ++ "\n") := by
  have hshown : Report.atLeast (shownLevel o) [errorRecord e] = [errorRecord e] := by
    unfold shownLevel
    split
    · rfl
    · rfl
  have hprinted : (errorRecord e).printed =
      "ERROR:scripts.render_testdb:" ++ e.message ++ "\n" := by
    change "ERROR" ++ ":" ++ "scripts.render_testdb" ++ ":" ++ e.message ++ "\n" = _
    rfl
  unfold Report.printedLines
  rw [show Report.atLeast (shownLevel o) (records ++ [errorRecord e]) =
      Report.atLeast (shownLevel o) records ++ Report.atLeast (shownLevel o) [errorRecord e] from
    List.filter_append .., hshown, List.map_append, String.join_append]
  rw [← hprinted]
  simp [String.join]

/-- A command on a registry that is there ends in a report, unless it stumbles. -/
theorem exists_run_reported {registry : Run Registry} (hr : registry.outcome = .ok r)
    (hquiet : registry.Quiet) (h : ¬ Stumbles o.task) :
    ∃ report, run o registry = .ok report ∧
      Reported r o.task (shownLevel o) registry.records report := by
  have horderly : (o.task.answer r).Orderly := answer_orderly h
  have hall : ∀ record ∈ registry.records ++ (o.task.answer r).records,
      record.level ≠ .error := by
    intro record hrecord
    rcases List.mem_append.mp hrecord with hbefore | hthen
    · exact hquiet record hbefore
    · exact horderly.quiet record hthen
  unfold run
  rw [hr]
  simp only [answer_eq_task_answer]
  cases hanswer : (o.task.answer r).outcome with
  | ok output =>
    exact ⟨_, rfl, .completed (answer_outcome_eq_ok_iff.mp hanswer) hall⟩
  | error e =>
    dsimp only
    rw [if_pos (horderly.reported hanswer), printedLines_append_errorRecord]
    exact ⟨_, rfl, .failed (answer_outcome_eq_error_iff.mp hanswer) hall⟩

theorem run_of_stumbles {registry : Run Registry} (hr : registry.outcome = .ok r)
    (h : Stumbles o.task) : run o registry = .error .notText := by
  have hanswer : (o.task.answer r).outcome = .error .notText := by
    cases htask : o.task with
    | rendering name assignments =>
      rw [htask] at h
      exact answer_outcome_eq_error_iff.mpr (.assignments ((readGiven_eq_notText_iff name).mpr h))
    | listing | schema | plan =>
      rw [htask] at h
      cases h
  unfold run
  rw [hr]
  simp only [answer_eq_task_answer, hanswer]
  rfl

end CommandLine

namespace Session

open CommandLine

theorem command_outcome (s : Session) {arguments : List String} {o : Options}
    (hread : Options.read arguments = .ok o) : (s.command arguments).1.outcome =
      (CommandLine.run o s.registry.1).map Result.report := by
  rw [command_fst, Step.commandWith, hread]
  rfl

/-- **What a command prints.** Whatever registry a session shares, a command that it accepts
is answered with a report: everything that was asked for and no word of an error, or nothing
but one line about the error. Only one that asks for a template and comes to an assignment
that is nothing is not answered. -/
theorem command_reports (s : Session) {r : Registry} (hr : s.registry.1.outcome = .ok r)
    {arguments : List String} {o : Options} (hread : Options.read arguments = .ok o) :
    (Stumbles o.task → (s.command arguments).1.outcome = .error .notText) ∧
    (¬ Stumbles o.task → ∃ report, (s.command arguments).1.outcome = .ok (.report report) ∧
      Reported r o.task (shownLevel o) s.registry.1.records report) := by
  rw [command_outcome s hread]
  constructor
  · intro h
    rw [run_of_stumbles hr h]
    rfl
  · intro h
    obtain ⟨report, hrun, hreported⟩ := exists_run_reported hr s.registry_quiet h
    rw [hrun]
    exact ⟨report, rfl, hreported⟩

set_option maxRecDepth 100000 in
theorem exists_registry_sample :
    ∃ r, (start Registry.sampleHost).registry.1.outcome = .ok r :=
  Outcome.exists_of_isOk (by decide +kernel)

/-- In a folder with one database its schema is printed, and an unknown template is not. -/
theorem command_reports_sample :
    ∃ r, (start Registry.sampleHost).registry.1.outcome = .ok r ∧
    (∃ o, Options.read ["--db=a", "--verbose"] = .ok o ∧ ¬ Stumbles o.task ∧
      ∃ report, ((start Registry.sampleHost).command ["--db=a", "--verbose"]).1.outcome =
        .ok (.report report) ∧
      Reported r (.schema "a") .info (start Registry.sampleHost).registry.1.records report) ∧
    ∃ o, Options.read ["--template=t", "--set==1", "--set=--"] = .ok o ∧ ¬ Stumbles o.task ∧
      ∃ report, ((start Registry.sampleHost).command
          ["--template=t", "--set==1", "--set=--"]).1.outcome = .ok (.report report) ∧
      Reported r (.rendering "t" [some "=1", none]) .warning
        (start Registry.sampleHost).registry.1.records report := by
  obtain ⟨r, hr⟩ := exists_registry_sample
  have hschema : Options.read ["--db=a", "--verbose"] =
      .ok { Options.none with database? := some "a", verbose := true } := by
    decide
  have hrendering : Options.read ["--template=t", "--set==1", "--set=--"] =
      .ok { Options.none with template? := some "t", assignments := [some "=1", none] } := by
    decide
  refine ⟨r, hr, ⟨_, hschema, ?_⟩, _, hrendering, ?_⟩
  · have hgoes : ¬ Stumbles (.schema "a") := fun h => by cases h
    exact ⟨hgoes, (command_reports _ hr hschema).2 hgoes⟩
  · -- the first assignment has no token, so the second is not looked at
    have hmalformed : readGiven [some "=1", none] = .error (.value (.notAssignment "=1")) :=
      Outcome.eq_error_of_error? (by decide)
    have hgoes : ¬ Stumbles (.rendering "t" [some "=1", none]) := by
      intro h
      cases hmalformed.symm.trans ((readGiven_eq_notText_iff "t").mpr h)
    exact ⟨hgoes, (command_reports _ hr hrendering).2 hgoes⟩

/-- An assignment that is nothing is accepted, and then no report is made. -/
theorem command_loose_assignment :
    (∃ r, (start Registry.sampleHost).registry.1.outcome = .ok r) ∧
    (∃ o, Options.read ["--template=t", "--set=--"] = .ok o) ∧
    ∀ report, ((start Registry.sampleHost).command ["--template=t", "--set=--"]).1.outcome ≠
      .ok (.report report) := by
  obtain ⟨r, hr⟩ := exists_registry_sample
  have hread : ∃ o, Options.read ["--template=t", "--set=--"] = .ok o ∧
      o.task = .rendering "t" [none] :=
    ⟨{ Options.none with template? := some "t", assignments := [none] }, by decide, rfl⟩
  obtain ⟨o, hread, htask⟩ := hread
  refine ⟨⟨r, hr⟩, ⟨o, hread⟩, fun report hreport => ?_⟩
  have hstumbles : Stumbles o.task := by
    rw [htask]
    exact (readGiven_eq_notText_iff "t").mp (Outcome.eq_error_of_error? (by decide))
  have hnotText := command_outcome (start Registry.sampleHost) hread
  rw [run_of_stumbles hr hstumbles] at hnotText
  cases hnotText.symm.trans hreport

end Session

end SchemaDepot
