/-
# Commands and the library

A command that names a database prints its schema and a line feed where the library has the
schema, and prints nothing where it has none; and one that names a template does the same
with the text that the template is rendered to with the assignments. This is so however the
name is given, and whatever else is asked for, as nothing else can be.

It is not so where the name is empty, or is two hyphens that are joined to the option and
left out. No database is taken to be named then, and the whole plan is printed, though the
library has no such database (`Session.command_agrees`, `Session.command_empty_name`).

Key definitions: `CommandLine.Shows`, `CommandLine.schemaGiven`, `CommandLine.textGiven`,
`Session.Prints`.
Key theorems: `Session.prints_of_task`, `Session.command_agrees`.
-/
import SchemaDepot.Proofs.CommandLine
import SchemaDepot.Proofs.CommandLine.Options

namespace SchemaDepot

open Outcome

namespace CommandLine

variable {r : Registry} {o : Options}

/-! ### What the library gives -/

/-- The schema of a database as the library gives it, with a line feed. -/
def schemaGiven (r : Registry) (x : String) : Except Error String :=
  (Scheme.schemaOf r (.text x)).outcome.map fun s => s ++ "\n"

/-- The text a template is rendered to with the values that assignments give, with a line
feed. -/
def textGiven (r : Registry) (name : String) (raws : List String) : Except Error String := do
  let values ← readAssignments raws
  (r.render name (values.map .text)).outcome.map fun s => s ++ "\n"

/-- The plan for everything, with the identifiers between the schemas. -/
def planGiven (r : Registry) : Except Error String := (Plan.build r .null).outcome.map planText

/-- A report shows what an operation gives, or nothing where it fails. -/
inductive Shows (x : Except Error String) : Report → Prop
  | text {s log : String} (hs : x = .ok s) : Shows x ⟨0, s, log⟩
  | nothing {e : Error} {log : String} (he : x = .error e) : Shows x ⟨1, "", log⟩

/-- A report on a task shows what is as complete as the task and fails as it does. -/
theorem Reported.shows {task : Task} {level : Log.Level} {before : List Log.Record}
    {report : Report} {x : Except Error String} (h : Reported r task level before report)
    (hok : ∀ output, Completes r task output → x = .ok output)
    (herror : ∀ e, Fails r task e → x = .error e) : Shows x report := by
  cases h with
  | completed houtput => exact .text (hok _ houtput)
  | failed he => exact .nothing (herror _ he)

section

variable {level : Log.Level} {before : List Log.Record} {report : Report}

theorem shows_schemaGiven {x : String} (h : Reported r (.schema x) level before report) :
    Shows (schemaGiven r x) report := by
  have hgiven : schemaGiven r x = (Scheme.schemaNamed r x).outcome.map fun s => s ++ "\n" := rfl
  refine h.shows (fun output hcomplete => ?_) fun e hfail => ?_
  · cases hcomplete with
    | schema hs =>
      rw [hgiven, hs]
      rfl
  · cases hfail with
    | schema he =>
      rw [hgiven, he]
      rfl

theorem shows_textGiven {name : String} {raws : List String}
    (h : Reported r (.rendering name (raws.map some)) level before report) :
    Shows (textGiven r name raws) report := by
  refine h.shows (fun output hcomplete => ?_) fun e hfail => ?_
  · cases hcomplete with
    | rendering hvalues hs =>
      rw [readGiven_some] at hvalues
      unfold textGiven
      rw [hvalues, ok_bind, hs]
      rfl
  · cases hfail with
    | assignments he =>
      rw [readGiven_some] at he
      unfold textGiven
      rw [he]
      rfl
    | rendering hvalues he =>
      rw [readGiven_some] at hvalues
      unfold textGiven
      rw [hvalues, ok_bind, he]
      rfl

theorem shows_planGiven (h : Reported r .plan level before report) :
    Shows (planGiven r) report := by
  refine h.shows (fun output hcomplete => ?_) fun e hfail => ?_
  · cases hcomplete with
    | plan hp =>
      unfold planGiven
      rw [hp]
      rfl
  · cases hfail with
    | plan he =>
      unfold planGiven
      rw [he]
      rfl

end

/-! ### What options are about -/

theorem not_stumbles_of_some (name : String) (raws : List String) :
    ¬ Stumbles (.rendering name (raws.map some)) := by
  generalize hgiven : raws.map some = assignments
  rintro ⟨-⟩
  have hnothing : none ∈ raws.map some := by
    rw [hgiven]
    exact List.mem_append_right _ List.mem_cons_self
  obtain ⟨raw, -, hraw⟩ := List.mem_map.mp hnothing
  cases hraw

theorem given?_some {x : String} (hx : x ≠ "") : given? (some x) = some x := by
  have hempty : x.isEmpty = false := by simpa using hx
  simp [given?, hempty]

section

variable {x : String} {texts : List String} (hread : Options.read texts = .ok o)
include hread

theorem task_of_database (hdatabase : o.database? = some x) (hx : x ≠ "") :
    o.task = .schema x := by
  obtain ⟨hsingle, -⟩ := Options.single_of_read hread
  unfold Options.task
  rw [Options.list_eq_false_of_database hsingle hdatabase, hdatabase, given?_some hx]
  rfl

theorem task_of_template (htemplate : o.template? = some x) (hx : x ≠ "") :
    o.task = .rendering x o.assignments := by
  obtain ⟨hsingle, -⟩ := Options.single_of_read hread
  obtain ⟨hlist, hdatabase⟩ := Options.alone_of_template hsingle htemplate
  unfold Options.task
  rw [hlist, hdatabase, htemplate, given?_some hx]
  rfl

theorem task_of_empty (hempty : o.database? = some "" ∨ o.template? = some "") :
    o.task = .plan := by
  obtain ⟨hsingle, -⟩ := Options.single_of_read hread
  unfold Options.task
  rcases hempty with hdatabase | htemplate
  · have htemplate : o.template? = none := by
      by_contra hother
      obtain ⟨name, hname⟩ := Option.ne_none_iff_exists'.mp hother
      rw [(Options.alone_of_template hsingle hname).2] at hdatabase
      cases hdatabase
    rw [Options.list_eq_false_of_database hsingle hdatabase, hdatabase, htemplate]
    rfl
  · obtain ⟨hlist, hdatabase⟩ := Options.alone_of_template hsingle htemplate
    rw [hlist, hdatabase, htemplate]
    rfl

end

end CommandLine

namespace Session

open CommandLine

variable {s : Session} {r : Registry} {o : Options} {arguments : List String}

/-- A command is reported on, and the report shows what an operation gives. -/
def Prints (s : Session) (arguments : List String) (x : Except Error String) : Prop :=
  ∃ report, (s.command arguments).1.outcome = .ok (.report report) ∧ Shows x report

/-- What a command prints depends on its task. -/
theorem prints_of_task (hr : s.registry.1.outcome = .ok r)
    (hread : Options.read arguments = .ok o) {x : Except Error String}
    (hstumbles : ¬ Stumbles o.task) (hx : ∀ {level before report},
      Reported r o.task level before report → Shows x report) : s.Prints arguments x := by
  obtain ⟨report, hrun, hreported⟩ := exists_run_reported hr s.registry_quiet hstumbles
  refine ⟨report, ?_, hx hreported⟩
  rw [command_outcome s hread, hrun]
  rfl

section

variable (hr : s.registry.1.outcome = .ok r) (hread : Options.read arguments = .ok o)
include hr hread

/-- A command that names a database agrees with the library. -/
theorem prints_schemaGiven {x : String} (hdatabase : o.database? = some x) (hx : x ≠ "") :
    s.Prints arguments (schemaGiven r x) := by
  have htask := task_of_database hread hdatabase hx
  apply prints_of_task hr hread
  · rw [htask]
    rintro ⟨⟩
  · rw [htask]
    exact shows_schemaGiven

theorem prints_textGiven {name : String} {raws : List String} (htemplate : o.template? = some name)
    (hname : name ≠ "") (hraws : o.assignments = raws.map some) :
    s.Prints arguments (textGiven r name raws) := by
  have htask := task_of_template hread htemplate hname
  rw [hraws] at htask
  apply prints_of_task hr hread
  · rw [htask]
    exact not_stumbles_of_some name raws
  · rw [htask]
    exact shows_textGiven

theorem prints_planGiven (hempty : o.database? = some "" ∨ o.template? = some "") :
    s.Prints arguments (planGiven r) := by
  have htask := task_of_empty hread hempty
  apply prints_of_task hr hread
  · rw [htask]
    rintro ⟨⟩
  · rw [htask]
    exact shows_planGiven

end

/-- **Commands and the library.** Whatever registry a session shares, a command that names a
database prints what the library gives for it, and one that names a template what it is
rendered to, in each of the ways to name them, as long as the name is not empty and nothing
is left out as two hyphens. With an empty name the plan is printed. -/
theorem command_agrees (s : Session) {r : Registry} (hr : s.registry.1.outcome = .ok r) :
    (∀ x : String, x ≠ "" →
      (∀ arguments o, Options.read arguments = .ok o → o.database? = some x →
        s.Prints arguments (schemaGiven r x)) ∧
      (x ≠ "--" → s.Prints ["--db=" ++ x] (schemaGiven r x)) ∧
      (Argument.ofText x = .ok (.operand x) → s.Prints ["--db", x] (schemaGiven r x))) ∧
    (∀ (name : String) (raws : List String), name ≠ "" →
      (∀ arguments o, Options.read arguments = .ok o → o.template? = some name →
        o.assignments = raws.map some → s.Prints arguments (textGiven r name raws)) ∧
      (name ≠ "--" → "--" ∉ raws →
        s.Prints (("--template=" ++ name) :: Options.joined raws) (textGiven r name raws)) ∧
      (Argument.ofText name = .ok (.operand name) →
        (∀ raw ∈ raws, Argument.ofText raw = .ok (.operand raw)) →
        s.Prints ("--template" :: name :: Options.apart raws) (textGiven r name raws))) ∧
    (∀ arguments o, Options.read arguments = .ok o →
      o.database? = some "" ∨ o.template? = some "" → s.Prints arguments (planGiven r)) ∧
    ∀ x ∈ ["", "--"], s.Prints ["--db=" ++ x] (planGiven r) ∧
      ∀ raws, s.Prints (("--template=" ++ x) :: Options.joined raws) (planGiven r) := by
  refine ⟨fun x hx => ⟨?_, ?_, ?_⟩, fun name raws hname => ⟨?_, ?_, ?_⟩, ?_, fun x hx => ⟨?_, ?_⟩⟩
  · intro arguments o hread hdatabase
    exact prints_schemaGiven hr hread hdatabase hx
  · intro hhyphens
    have hread := Options.read_joined_database x
    rw [Options.valueOf_of_ne hhyphens] at hread
    exact prints_schemaGiven hr hread rfl hx
  · intro hoperand
    exact prints_schemaGiven hr (Options.read_apart_database hoperand) rfl hx
  · intro arguments o hread htemplate hraws
    exact prints_textGiven hr hread htemplate hname hraws
  · intro hhyphens hraws
    have hread := Options.read_joined_template name raws
    rw [Options.valueOf_of_ne hhyphens, Options.map_valueOf hraws] at hread
    exact prints_textGiven hr hread rfl hname rfl
  · intro hoperand hraws
    exact prints_textGiven hr (Options.read_apart_template hoperand hraws) rfl hname rfl
  · intro arguments o hread hempty
    exact prints_planGiven hr hread hempty
  · have hempty := congrArg some (Options.getD_valueOf_of_mem hx)
    exact prints_planGiven hr (Options.read_joined_database x) (Or.inl hempty)
  · intro raws
    have hempty := congrArg some (Options.getD_valueOf_of_mem hx)
    exact prints_planGiven hr (Options.read_joined_template x raws) (Or.inr hempty)

set_option maxRecDepth 100000 in
/-- In a folder with one database its name is answered with its schema, and another name, which
starts like an option, is answered with nothing. -/
theorem command_agrees_sample :
    (∃ report, ((start Registry.sampleHost).command ["--db=a"]).1.outcome = .ok (.report report) ∧
      report.code = 0 ∧ report.output = "CREATE DATABASE a;\n") ∧
    ∃ report, ((start Registry.sampleHost).command ["--db=-a"]).1.outcome = .ok (.report report) ∧
      report.code = 1 ∧ report.output = "" := by
  have hbuilt : (start Registry.sampleHost).registry.1.outcome.toOption.map
      (fun r => ((schemaGiven r "a").toOption, error? (schemaGiven r "-a"))) =
        some (some "CREATE DATABASE a;\n", some (.unknownIdentifier "-a")) := by
    decide +kernel
  obtain ⟨r, hr, hgiven⟩ := Option.map_eq_some_iff.mp hbuilt
  obtain ⟨hschema, hunknown⟩ := Prod.mk.inj hgiven
  obtain ⟨hagrees, -⟩ := command_agrees (start Registry.sampleHost) (eq_ok_of_toOption hr)
  obtain ⟨-, hnamed, -⟩ := hagrees "a" (by decide)
  obtain ⟨-, hother, -⟩ := hagrees "-a" (by decide)
  have hfirst : "--db=" ++ "a" = "--db=a" := by decide
  have hsecond : "--db=" ++ "-a" = "--db=-a" := by decide
  rw [hfirst] at hnamed
  rw [hsecond] at hother
  constructor
  · obtain ⟨report, hreport, hshows⟩ := hnamed (by decide)
    cases hshows with
    | text hs =>
      cases (eq_ok_of_toOption hschema).symm.trans hs
      exact ⟨_, hreport, rfl, rfl⟩
    | nothing he => cases (eq_ok_of_toOption hschema).symm.trans he
  · obtain ⟨report, hreport, hshows⟩ := hother (by decide)
    cases hshows with
    | text hs => cases (eq_error_of_error? hunknown).symm.trans hs
    | nothing he => exact ⟨_, hreport, rfl, rfl⟩

set_option maxRecDepth 100000 in
/-- An empty name is answered with the plan, though the library has no such database. -/
theorem command_empty_name :
    (∃ r, (start Registry.sampleHost).registry.1.outcome = .ok r ∧
      schemaGiven r "" = .error (.unknownIdentifier "")) ∧
    ((start Registry.sampleHost).command ["--db", ""]).1.outcome =
      .ok (.report ⟨0, "-- database: a\nCREATE DATABASE a;\n", ""⟩) := by
  have hbuilt : (start Registry.sampleHost).registry.1.outcome.toOption.map
      (fun r => error? (schemaGiven r "")) = some (some (.unknownIdentifier "")) := by
    decide +kernel
  obtain ⟨r, hr, hunknown⟩ := Option.map_eq_some_iff.mp hbuilt
  have hreport : ((start Registry.sampleHost).command ["--db", ""]).1.outcome.toOption.bind
      (fun result => match result with
        | .report report => some report
        | _ => none) = some ⟨0, "-- database: a\nCREATE DATABASE a;\n", ""⟩ := by
    decide +kernel
  obtain ⟨result, hresult, hreport⟩ := Option.bind_eq_some_iff.mp hreport
  refine ⟨⟨r, eq_ok_of_toOption hr, eq_error_of_error? hunknown⟩, ?_⟩
  rw [eq_ok_of_toOption hresult]
  cases result with
  | report report =>
    cases hreport
    rfl
  | done | first | same | settings | refused | answer => cases hreport

end Session

end SchemaDepot
