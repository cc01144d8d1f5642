/-
# What some arguments ask for

Options that are read choose exactly one mode: a second one is refused with the option that
would choose it, and none at all in the end. So a command that names a database is about
nothing else, and one that names a template neither.

The value of an option may be joined to its name by an equals sign. Every text can be given
so but two hyphens, which are left out and leave the option without a value. It may also be
the next argument, if it does not look like an option itself.

Key definition: `Options.Single`.
Key theorems: `Options.single_add`, `Options.single_collect`, `Options.single_of_read`,
`Argument.ofText_joined`, `Options.read_joined_template`, `Options.read_apart_template`.
-/
import SchemaDepot.CommandLine.Options
import SchemaDepot.Proofs.Outcome

namespace SchemaDepot.CommandLine

open Outcome

namespace Options

variable {o o' : Options}

/-! ### Modes -/

/-- No two modes are chosen. -/
def Single (o : Options) : Prop := ∀ s ∈ o.modes, ∀ t ∈ o.modes, s = t

theorem mem_modes {t : Switch} : t ∈ o.modes ↔
    o.list = true ∧ t = .list ∨ o.database?.isSome = true ∧ t = .database ∨
      o.template?.isSome = true ∧ t = .template ∨ o.plan = true ∧ t = .plan := by
  simp [modes]

theorem mem_modes_of_add {s t : Switch} {value? : Option String} (h : o.add s value? = .ok o')
    (ht : t ∈ o'.modes) : t ∈ o.modes ∨ s.isMode = true ∧ t = s := by
  obtain ⟨-, h⟩ := refuse_eq_ok_iff.mp h
  cases s with
  | help => cases h
  | assign | verbose =>
    cases h
    exact Or.inl ht
  | list | database | template | plan =>
    cases h
    simp only [mem_modes, Option.isSome_some, true_and] at ht
    simp only [mem_modes, Switch.isMode]
    tauto

/-- An option that would choose a second mode is refused. -/
theorem single_add {s : Switch} {value? : Option String} (h : o.add s value? = .ok o')
    (ho : o.Single) : o'.Single := by
  obtain ⟨hother, -⟩ := refuse_eq_ok_iff.mp h
  have hsame : s.isMode = true → ∀ t ∈ o.modes, t = s := by
    intro hmode t ht
    by_contra hne
    apply hother
    rw [Bool.and_eq_true, List.any_eq_true]
    exact ⟨hmode, t, ht, decide_eq_true hne⟩
  intro t ht u hu
  rcases mem_modes_of_add h ht with ht | ⟨hmode, rfl⟩
  · rcases mem_modes_of_add h hu with hu | ⟨hmode, rfl⟩
    · exact ho t ht u hu
    · exact hsame hmode t ht
  · rcases mem_modes_of_add h hu with hu | ⟨-, rfl⟩
    · exact (hsame hmode u hu).symm
    · rfl

/-- So arguments that are gone through never choose two. -/
theorem single_collect {stray stray' : Bool} {arguments : List Argument}
    (h : collect o stray arguments = .ok (o', stray')) (ho : o.Single) : o'.Single := by
  fun_induction collect o stray arguments with
  | case1 =>
    cases h
    exact ho
  | case2 _ _ _ _ ih | case3 _ _ _ ih | case4 _ _ _ ih => exact ih h ho
  | case5 => cases h
  | case6 _ _ _ _ _ _ ih | case8 _ _ _ _ _ _ ih | case9 _ _ _ _ _ _ ih
    | case11 _ _ _ _ _ _ ih =>
    obtain ⟨next, hadd, h⟩ := bind_eq_ok_iff.mp h
    exact ih next h (single_add hadd ho)
  | case7 => cases h
  | case10 => cases h

/-- Options that are read choose one mode. -/
theorem single_of_read {texts : List String} (h : read texts = .ok o) :
    o.Single ∧ o.modes ≠ [] := by
  obtain ⟨arguments, -, h⟩ := bind_eq_ok_iff.mp h
  obtain ⟨⟨o', stray⟩, hcollect, h⟩ := bind_eq_ok_iff.mp h
  obtain ⟨hmode, h⟩ := refuse_eq_ok_iff.mp h
  cases h
  rw [Bool.or_eq_true, not_or, List.isEmpty_iff] at hmode
  refine ⟨single_collect hcollect ?_, hmode.1⟩
  -- nothing is asked for before the first argument
  intro s hs
  cases hs

/-- Where another mode is chosen, the list is not asked for. -/
theorem list_eq_false_of_mem {s : Switch} (ho : o.Single) (hs : s ∈ o.modes) (hne : s ≠ .list) :
    o.list = false := by
  by_contra hlist
  have hboth : Switch.list ∈ o.modes :=
    mem_modes.mpr (Or.inl ⟨eq_true_of_ne_false hlist, rfl⟩)
  exact hne (ho _ hs _ hboth)

theorem list_eq_false_of_database {x : String} (ho : o.Single) (hx : o.database? = some x) :
    o.list = false := by
  have hdatabase : Switch.database ∈ o.modes := mem_modes.mpr (by simp [hx])
  exact list_eq_false_of_mem ho hdatabase (by decide)

theorem alone_of_template {x : String} (ho : o.Single) (hx : o.template? = some x) :
    o.list = false ∧ o.database? = .none := by
  have htemplate : Switch.template ∈ o.modes := mem_modes.mpr (by simp [hx])
  refine ⟨list_eq_false_of_mem ho htemplate (by decide), ?_⟩
  by_contra hdatabase
  have hboth : Switch.database ∈ o.modes :=
    mem_modes.mpr (by simp [Option.isSome_iff_ne_none, hdatabase])
  cases ho _ htemplate _ hboth

end Options

/-! ### Options with their values -/

namespace Argument

variable {name text value : String} {s : Switch} {texts : List String} {a : Argument}

theorem switchOf?_name (h : (name, s) ∈ Switch.names) : switchOf? name.toList = .ok (some s) := by
  have hall : ∀ e ∈ Switch.names, switchOf? e.1.toList = .ok (some e.2) := by decide
  exact hall _ h

/-- The name of an option is two hyphens and more, and holds no equals sign. -/
theorem exists_of_name (h : (name, s) ∈ Switch.names) :
    ∃ c rest, name.toList = '-' :: '-' :: c :: rest ∧ '=' ∉ name.toList := by
  have hall : ∀ e ∈ Switch.names, e.1.toList.take 2 = ['-', '-'] ∧ 2 < e.1.toList.length ∧
      '=' ∉ e.1.toList := by
    decide
  obtain ⟨htake, hlength, hsign⟩ := hall _ h
  match hname : name.toList with
  | [] | [_] | [_, _] => simp [hname] at hlength
  | a :: b :: c :: rest =>
    simp only [hname, List.take_succ_cons, List.take_zero, List.cons.injEq, and_true] at htake
    obtain ⟨rfl, rfl⟩ := htake
    exact ⟨c, rest, rfl, hname ▸ hsign⟩

/-- A value may be joined to the name of an option. -/
theorem ofText_joined (h : (name, s) ∈ Switch.names) (value : String) :
    ofText (name ++ "=" ++ value) = .ok (.switch s (some value)) := by
  obtain ⟨c, rest, hname, hsign⟩ := exists_of_name h
  have hlist : (name ++ "=" ++ value).toList = name.toList ++ '=' :: value.toList := by
    simp [String.toList_append]
  have hlong : ofText (name ++ "=" ++ value) = ofLong (name ++ "=" ++ value) := by
    unfold ofText
    rw [hlist, hname]
    rfl
  have hcut : Text.cut? '=' (name ++ "=" ++ value).toList = some (name.toList, value.toList) :=
    Text.cut?_eq_some_iff.mpr ⟨hlist, hsign⟩
  rw [hlong]
  unfold ofLong
  rw [hcut]
  dsimp only
  rw [switchOf?_name h, String.ofList_toList]
  rfl

theorem ofText_name (h : (name, s) ∈ Switch.names) : ofText name = .ok (.switch s none) := by
  have hall : ∀ e ∈ Switch.names, ofText e.1 = .ok (.switch e.2 none) := by decide
  exact hall _ h

/-- Up to the separator each argument is looked at by itself. -/
theorem ofTexts_cons (h : ofText text = .ok a) (ha : a ≠ .separator) {rest : List Argument}
    (hrest : ofTexts texts = .ok rest) : ofTexts (text :: texts) = .ok (a :: rest) := by
  unfold ofTexts
  rw [h, hrest]
  cases a with
  | separator => exact absurd rfl ha
  | operand | switch | helpWith | unknown => rfl

end Argument

namespace Options

variable {o : Options}

theorem valueOf_of_ne {x : String} (hx : x ≠ "--") : valueOf x = some x := if_neg hx

theorem map_valueOf {raws : List String} (h : "--" ∉ raws) :
    raws.map valueOf = raws.map some := by
  apply List.map_congr_left
  intro raw hraw
  apply valueOf_of_ne
  rintro rfl
  exact h hraw

/-- A name that is left out is as good as an empty one. -/
theorem getD_valueOf_of_mem {x : String} (hx : x ∈ ["", "--"]) : (valueOf x).getD "" = "" := by
  have hall : ∀ x ∈ ["", "--"], (valueOf x).getD "" = "" := by decide
  exact hall x hx

/-- The arguments that give one token after the other a value, joined to the option. -/
def joined (raws : List String) : List String := raws.map fun raw => "--set=" ++ raw

/-- The same with the values as arguments of their own. -/
def apart (raws : List String) : List String := raws.flatMap fun raw => ["--set", raw]

theorem ofTexts_joined (raws : List String) : Argument.ofTexts (joined raws) =
    .ok (raws.map fun raw => .switch .assign (some raw)) := by
  induction raws with
  | nil => rfl
  | cons raw raws ih =>
    have hraw : Argument.ofText ("--set=" ++ raw) = .ok (.switch .assign (some raw)) :=
      Argument.ofText_joined (show ("--set", Switch.assign) ∈ Switch.names by decide) raw
    exact Argument.ofTexts_cons hraw (by simp) ih

theorem ofTexts_apart {raws : List String}
    (h : ∀ raw ∈ raws, Argument.ofText raw = .ok (.operand raw)) : Argument.ofTexts (apart raws) =
    .ok (raws.flatMap fun raw => [.switch .assign .none, .operand raw]) := by
  induction raws with
  | nil => rfl
  | cons raw raws ih =>
    obtain ⟨hraw, hraws⟩ := List.forall_mem_cons.mp h
    have hname : Argument.ofText "--set" = .ok (.switch .assign .none) :=
      Argument.ofText_name (by decide)
    exact Argument.ofTexts_cons hname (by simp) (Argument.ofTexts_cons hraw (by simp) (ih hraws))

/-- Assignments are collected in order; one that is joined may be nothing. -/
theorem collect_joined (o : Options) (raws : List String) :
    collect o false (raws.map fun raw => .switch .assign (some raw)) =
      .ok ({ o with assignments := o.assignments ++ raws.map valueOf }, false) := by
  induction raws generalizing o with
  | nil => simp [collect]
  | cons raw raws ih =>
    change collect { o with assignments := o.assignments ++ [valueOf raw] } false _ = _
    rw [ih]
    simp

theorem collect_apart (o : Options) (raws : List String) :
    collect o false (raws.flatMap fun raw => [.switch .assign .none, .operand raw]) =
      .ok ({ o with assignments := o.assignments ++ raws.map some }, false) := by
  induction raws generalizing o with
  | nil => simp [collect]
  | cons raw raws ih =>
    rw [List.flatMap_cons]
    change collect { o with assignments := o.assignments ++ [some raw] } false
      (raws.flatMap _) = _
    rw [ih]
    simp

/-- What is collected is read if it chooses a mode and nothing is astray. -/
theorem read_eq_ok {texts : List String} {arguments : List Argument}
    (htexts : Argument.ofTexts texts = .ok arguments)
    (hcollect : collect none false arguments = .ok (o, false)) (hmode : o.modes ≠ []) :
    read texts = .ok o := by
  have hmodes : o.modes.isEmpty = false := by simpa using hmode
  unfold read
  rw [htexts, ok_bind, hcollect]
  change (if (o.modes.isEmpty || false) = true then Except.error Refusal.misused else .ok o) = _
  rw [hmodes]
  rfl

theorem read_joined_database (x : String) : read ["--db=" ++ x] =
    .ok { none with database? := some ((valueOf x).getD "") } := by
  have hx : Argument.ofText ("--db=" ++ x) = .ok (.switch .database (some x)) :=
    Argument.ofText_joined (show ("--db", Switch.database) ∈ Switch.names by decide) x
  exact read_eq_ok (Argument.ofTexts_cons hx (by simp) rfl) rfl (by simp [modes, none])

theorem read_apart_database {x : String} (h : Argument.ofText x = .ok (.operand x)) :
    read ["--db", x] = .ok { none with database? := some x } := by
  have hname : Argument.ofText "--db" = .ok (.switch .database .none) :=
    Argument.ofText_name (by decide)
  have htexts : Argument.ofTexts ["--db", x] = .ok [.switch .database .none, .operand x] :=
    Argument.ofTexts_cons hname (by simp) (Argument.ofTexts_cons h (by simp) rfl)
  exact read_eq_ok htexts rfl (by simp [modes, none])

theorem read_joined_template (name : String) (raws : List String) :
    read (("--template=" ++ name) :: joined raws) = .ok { none with
      template? := some ((valueOf name).getD ""), assignments := raws.map valueOf } := by
  have hname : Argument.ofText ("--template=" ++ name) = .ok (.switch .template (some name)) :=
    Argument.ofText_joined (show ("--template", Switch.template) ∈ Switch.names by decide) name
  have htexts := Argument.ofTexts_cons hname (by simp) (ofTexts_joined raws)
  refine read_eq_ok htexts ?_ (by simp [modes])
  exact collect_joined { none with template? := some ((valueOf name).getD "") } raws

theorem read_apart_template {name : String} {raws : List String}
    (hname : Argument.ofText name = .ok (.operand name))
    (hraws : ∀ raw ∈ raws, Argument.ofText raw = .ok (.operand raw)) :
    read ("--template" :: name :: apart raws) = .ok { none with
      template? := some name, assignments := raws.map some } := by
  have hswitch : Argument.ofText "--template" = .ok (.switch .template .none) :=
    Argument.ofText_name (by decide)
  have htexts := Argument.ofTexts_cons hswitch (by simp)
    (Argument.ofTexts_cons hname (by simp) (ofTexts_apart hraws))
  refine read_eq_ok htexts ?_ (by simp [modes])
  exact collect_apart { none with template? := some name } raws

end Options

end SchemaDepot.CommandLine
