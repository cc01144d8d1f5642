/-
# Options

A command line is a list of arguments. An option starts with two hyphens and may
be shortened as long as it is still the only one meant; `-h` stands for help. A
value follows in the next argument or after an equals sign. An argument that looks
like an option cannot be a value; a negative number, or an argument with a space
that is no option, does not look like one. After `--` no argument is an option,
and as a value after an equals sign `--` stands for no value.

Exactly one of four modes must be chosen, and it may be chosen more than once. No
argument stands without an option.

Not covered: the way later readers of options have with two kinds of arguments. They
take `--` after an equals sign as the value it is, and show the help for `-h` whatever
other letters follow it. Here the first is no value, and the second is refused unless
all that follows is more of the same letter.

Key definitions: `CommandLine.Options`, `CommandLine.Argument.ofText`,
`CommandLine.Options.read`.
-/
import SchemaDepot.Text.Lines
import SchemaDepot.Text.Numeral
import SchemaDepot.Text.Occurs

namespace SchemaDepot.CommandLine

/-- What can be asked for on a command line. -/
inductive Switch
  | help
  | list
  | database
  | template
  | plan
  | assign
  | verbose
deriving DecidableEq

namespace Switch

/-- The options with two hyphens. -/
def names : List (String × Switch) :=
  [("--help", .help), ("--list", .list), ("--db", .database), ("--template", .template),
   ("--plan", .plan), ("--set", .assign), ("--verbose", .verbose)]

/-- The option is followed by a value. -/
def takesValue : Switch → Bool
  | .database | .template | .assign => true
  | _ => false

/-- The option chooses a mode. -/
def isMode : Switch → Bool
  | .list | .database | .template | .plan => true
  | _ => false

end Switch

/-- Why a command line is not carried out. -/
inductive Refusal
  /-- Help was asked for. -/
  | helped
  /-- The arguments are not permitted. -/
  | misused
deriving DecidableEq

/-- The code a command that is not carried out ends with. -/
def Refusal.code : Refusal → Nat
  | .helped => 0
  | .misused => 2

/-- What one argument looks like. -/
inductive Argument
  /-- No option. -/
  | operand (text : String)
  /-- The mark after which there are no options. -/
  | separator
  /-- An option, perhaps with a value. -/
  | switch (s : Switch) (value? : Option String)
  /-- `-h` with more letters after it. -/
  | helpWith (tail : List Char)
  /-- Something that looks like an option, but is none. -/
  | unknown
deriving DecidableEq

namespace Argument

/-- A minus sign and digits, perhaps with a point among them; a line feed may
follow. -/
def isNegativeNumber (cs : List Char) : Bool :=
  let isDigit (c : Char) : Bool := (Text.digit? c).isSome
  match Text.withoutFinalBreak cs with
  | '-' :: rest =>
    match rest.dropWhile isDigit with
    | [] => !rest.isEmpty
    | '.' :: fraction => !fraction.isEmpty && fraction.all isDigit
    | _ => false
  | _ => false

/-- The option that a name, or the start of one, means. -/
def switchOf? (name : List Char) : Except Refusal (Option Switch) :=
  match Switch.names.filter fun s => name.isPrefixOf s.1.toList with
  | [] => .ok none
  | [s] => .ok (some s.2)
  | _ => .error .misused

/-- What an argument that starts with two hyphens looks like. -/
def ofLong (text : String) : Except Refusal Argument := do
  let (name, value?) := match Text.cut? '=' text.toList with
    | none => (text.toList, none)
    | some (name, value) => (name, some (String.ofList value))
  match ← switchOf? name with
  | some s => .ok (.switch s value?)
  | none => .ok (if text.toList.contains ' ' then .operand text else .unknown)

/-- What an argument looks like, unless it could be several options. -/
def ofText (text : String) : Except Refusal Argument :=
  match text.toList with
  | '-' :: '-' :: rest => if rest.isEmpty then .ok .separator else ofLong text
  | '-' :: 'h' :: tail => .ok (if tail.isEmpty then .switch .help none else .helpWith tail)
  | '-' :: rest =>
    .ok (if rest.isEmpty || isNegativeNumber text.toList || rest.contains ' ' then .operand text
      else .unknown)
  | _ => .ok (.operand text)

/-- What the arguments look like, up to the separator and after it. -/
def ofTexts : List String → Except Refusal (List Argument)
  | [] => .ok []
  | text :: texts => do
    match ← ofText text with
    | .separator => .ok (.separator :: texts.map .operand)
    | a => do
      let rest ← ofTexts texts
      .ok (a :: rest)

end Argument

/-- What a command line asks for. -/
structure Options where
  list : Bool
  database? : Option String
  template? : Option String
  plan : Bool
  /-- The assignments, in order; one without a value is nothing. -/
  assignments : List (Option String)
  verbose : Bool
deriving DecidableEq

namespace Options

/-- Nothing asked for. -/
def none : Options := ⟨false, .none, .none, false, [], false⟩

/-- The modes that were chosen. -/
def modes (o : Options) : List Switch :=
  (if o.list then [.list] else []) ++ (if o.database?.isSome then [.database] else []) ++
  (if o.template?.isSome then [.template] else []) ++ (if o.plan then [.plan] else [])

/-- The value after an equals sign. -/
def valueOf (text : String) : Option String := if text = "--" then Option.none else some text

/-- With one more option. A second mode is refused, and help ends the reading. A
mode without its value counts as given. -/
def add (o : Options) (s : Switch) (value? : Option String) : Except Refusal Options :=
  if s.isMode && o.modes.any (· ≠ s) then .error .misused
  else match s with
    | .help => .error .helped
    | .list => .ok { o with list := true }
    | .database => .ok { o with database? := some (value?.getD "") }
    | .template => .ok { o with template? := some (value?.getD "") }
    | .plan => .ok { o with plan := true }
    | .assign => .ok { o with assignments := o.assignments ++ [value?] }
    | .verbose => .ok { o with verbose := true }

/-- After `-h`, more of the letter mean the same, also as its value after an equals
sign. Nothing else may follow. -/
def helpOutcome (tail : List Char) : Refusal :=
  let letters := match tail with
    | '=' :: value => value
    | _ => tail
  if !letters.isEmpty && letters.all (· = 'h') then .helped else .misused

/-- Goes through the arguments in order; `stray` says that one of them stood
without an option. -/
def collect (o : Options) (stray : Bool) : List Argument → Except Refusal (Options × Bool)
  | [] => .ok (o, stray)
  | .operand _ :: rest | .separator :: rest | .unknown :: rest => collect o true rest
  | .helpWith tail :: _ => .error (helpOutcome tail)
  | .switch s (some value) :: rest =>
    if s.takesValue then do
      let o ← o.add s (valueOf value)
      collect o stray rest
    else .error .misused
  | .switch s .none :: .operand text :: rest => do
    if s.takesValue then
      let o ← o.add s (some text)
      collect o stray rest
    else
      let o ← o.add s .none
      collect o true rest
  | .switch s .none :: rest => do
    if s.takesValue then .error .misused
    else
      let o ← o.add s .none
      collect o stray rest

/-- What a command line asks for. -/
def read (texts : List String) : Except Refusal Options := do
  let arguments ← Argument.ofTexts texts
  let (o, stray) ← collect none false arguments
  if o.modes.isEmpty || stray then .error .misused else .ok o

end Options

end SchemaDepot.CommandLine
