/-
ComponentWiring.CommandLine — the arguments of the program.

* `ProgramOption`, `CommandName` — the options and the commands, as tables.
* `programHelp`, `CommandName.help` — the help texts, which follow from the tables.
* `Invocation.ofArguments` — what the arguments ask for.

Arguments are read from left to right, and the first thing that is wrong, or asks for help,
decides.
-/
import ComponentWiring.Command

namespace ComponentWiring

/-! ## 1. Tables -/

/-- An option of the program or of a command. -/
structure ProgramOption where
  /-- The name after two dashes. -/
  long : String
  /-- The letter after one dash. -/
  short : Option Char := none
  /-- What the value is called, for an option that takes one. -/
  value : Option String := none
  help : String := ""
deriving DecidableEq, Inhabited

/-- The three things that can be done. -/
inductive CommandName
  | generate
  | check
  | init
deriving DecidableEq, Inhabited

/-- The commands in the order of the help text. -/
def CommandName.all : List CommandName := [.generate, .check, .init]

/-- The command as it is written. -/
def CommandName.text : CommandName → String
  | .generate => "generate"
  | .check => "check"
  | .init => "init"

/-- What the command does. -/
def CommandName.about : CommandName → String
  | .generate => "Generate sources and write them to the output directory"
  | .check => "Run generation without writing anything"
  | .init => "Write a default october.toml"

def projectOption : ProgramOption := { long := "project", value := some "PROJECT", help := "[default: .]" }
def verboseOption : ProgramOption :=
  { long := "verbose", short := some 'v', help := "Log at debug level unless RUST_LOG says otherwise" }
def helpOption : ProgramOption := { long := "help", short := some 'h', help := "Print help" }
def versionOption : ProgramOption := { long := "version", short := some 'V', help := "Print version" }

/-- The options of a command, in the order of its help text: those that every command has
stand around its own. -/
def CommandName.options (c : CommandName) : List ProgramOption :=
  [projectOption, verboseOption] ++
    (match c with
    | .generate =>
      [{ long := "index", value := some "INDEX", help := "Declaration index, overriding the configured one" },
       { long := "out", value := some "OUT", help := "Output directory, overriding the configured one" }]
    | .check => [{ long := "index", value := some "INDEX" }]
    | .init => [{ long := "force", help := "Overwrite an existing configuration" }])
    ++ [helpOption]

/-- The options before the command. -/
def programOptions : List ProgramOption := [verboseOption, helpOption, versionOption]

/-! ## 2. Help -/

/-- A text with spaces up to a width. -/
def padded (width : Nat) (s : String) : String :=
  s ++ String.ofList (List.replicate (width - s.length) ' ')

/-- Rows of two columns. -/
def twoColumns (rows : List (String × String)) : String :=
  let width := (rows.map fun r => r.1.length).foldl max 0
  String.join (rows.map fun r => "  " ++ padded width r.1 ++ "  " ++ r.2 ++ "\n")

/-- An option as the help text spells it. -/
def ProgramOption.spelling (o : ProgramOption) : String :=
  (match o.short with
    | some c => "-" ++ String.singleton c ++ ", "
    | none => "    ")
    ++ "--" ++ o.long ++ o.value.elim "" fun v => " <" ++ v ++ ">"

/-- The rows about options. -/
def optionRows (os : List ProgramOption) : List (String × String) :=
  os.map fun o => (o.spelling, o.help)

/-- What the command that prints help texts does. -/
def helpAbout : String := "Print this message or the help of the given subcommand(s)"

/-- The help text of the program. -/
def programHelp : String :=
  "Generate dependency injection components\n\nUsage: october [OPTIONS] <COMMAND>\n\nCommands:\n"
    ++ twoColumns (CommandName.all.map (fun c => (c.text, c.about))
      ++ [("help", helpAbout)])
    ++ "\nOptions:\n" ++ twoColumns (optionRows programOptions)

/-- The help text of a command. -/
def CommandName.help (c : CommandName) : String :=
  c.about ++ "\n\nUsage: october " ++ c.text ++ " [OPTIONS]\n\nOptions:\n"
    ++ twoColumns (optionRows c.options)

/-- The help text of the command that prints help texts. -/
def helpHelp : String :=
  helpAbout ++ "\n\nUsage: october help [COMMAND]...\n\nArguments:\n"
    ++ twoColumns [("[COMMAND]...", "Print help for the subcommand(s)")]

/-- The version of the program. -/
def versionText : String := "october 0.1.0\n"

/-! ## 3. Reading arguments -/

/-- What is wrong with arguments. -/
inductive UsageFault
  | noCommand
  | unknownCommand (text : String)
  | unexpected (argument : String)
  | noValue (option : String)
  /-- An option that takes no value was given one. -/
  | needlessValue (option : String)
  | repeated (option : String)
deriving DecidableEq, Inhabited

/-- The fault in words. -/
def UsageFault.message : UsageFault → String
  | .noCommand => programHelp
  | .unknownCommand text => "error: unrecognized subcommand '" ++ text ++ "'\n"
  | .unexpected argument => "error: unexpected argument '" ++ argument ++ "' found\n"
  | .noValue option => "error: a value is required for '" ++ option ++ "' but none was supplied\n"
  | .needlessValue option => "error: unexpected value for '" ++ option ++ "' found; no more were expected\n"
  | .repeated option => "error: the argument '" ++ option ++ "' cannot be used multiple times\n"

/-- What arguments ask for. -/
inductive Invocation
  | run (c : Command)
  /-- Prints a text. -/
  | print (text : String)
  | misuse (fault : UsageFault)
deriving DecidableEq, Inhabited

/-- What may end the reading of options before they are all read. -/
inductive Stop
  | fault (f : UsageFault)
  | helpAsked
  | versionAsked
deriving DecidableEq, Inhabited

/-- The options read so far, by long name; the value is empty where none is taken. -/
abbrev Given := List (String × String)

/-- Takes an option into account. -/
def Given.add (g : Given) (o : ProgramOption) (value : String) : Except Stop Given :=
  if o = helpOption then .error .helpAsked
  else if o = versionOption then .error .versionAsked
  else if (g.lookup o.long).isSome then .error (.fault (.repeated ("--" ++ o.long)))
  else if o.value.isSome && value.isEmpty then .error (.fault (.noValue ("--" ++ o.long)))
  else .ok ((o.long, value) :: g)

/-- Reads the letters after a single dash. None of their options takes a value. -/
def readLetters (os : List ProgramOption) (argument : String) :
    List Char → Given → Except Stop Given
  | [], g => .ok g
  | c :: cs, g =>
    match os.find? (·.short = some c) with
    | none => .error (.fault (.unexpected argument))
    | some o => do readLetters os argument cs (← g.add o "")

/-- The part before the first equals sign, and the part after it. -/
def splitValue (cs : List Char) : List Char × Option (List Char) :=
  match Text.splitAt '=' cs with
  | (name, []) => (name, none)
  | (name, rest) => (name, some (Text.joinWith '=' rest))

/-- Whether an argument can be the value of an option: it does not look like an option. -/
def isValue (argument : String) : Bool :=
  match argument.toList with
  | '-' :: _ :: _ => false
  | _ => true

/-- Reads options up to the first argument that is none. Two dashes end the options. An
option that takes a value waits for it where the value was not given after an equals sign.
The answer holds the arguments that are left, and whether they follow two dashes. -/
def readOptions (os : List ProgramOption) :
    Option ProgramOption → List String → Given → Except Stop (Given × List String × Bool)
  | none, [], g => .ok (g, [], false)
  | some o, [], _ => .error (.fault (.noValue ("--" ++ o.long)))
  | some o, a :: as, g =>
    if isValue a then (g.add o a).bind (readOptions os none as)
    else .error (.fault (.noValue ("--" ++ o.long)))
  | none, a :: as, g =>
    match a.toList with
    | ['-', '-'] => .ok (g, as, true)
    | '-' :: '-' :: cs =>
      let (name, value) := splitValue cs
      match os.find? (·.long = String.ofList name) with
      | none => .error (.fault (.unexpected a))
      | some o =>
        match o.value, value with
        | none, none => (g.add o "").bind (readOptions os none as)
        | none, some _ => .error (.fault (.needlessValue ("--" ++ o.long)))
        | some _, some v => (g.add o (String.ofList v)).bind (readOptions os none as)
        | some _, none => readOptions os (some o) as g
    | '-' :: c :: cs => (readLetters os a (c :: cs) g).bind (readOptions os none as)
    | _ => .ok (g, a :: as, false)

/-- The command that options make of a name. -/
def CommandName.command (c : CommandName) (g : Given) : Command :=
  let path? (name : String) := (g.lookup name).map Path.mk
  let project := (path? "project").getD ⟨"."⟩
  match c with
  | .generate => .generate project (path? "index") (path? "out")
  | .check => .check project (path? "index")
  | .init => .init project (g.lookup "force").isSome

/-- What the arguments after a command ask for. -/
def CommandName.read (c : CommandName) (arguments : List String) : Invocation :=
  match readOptions c.options none arguments [] with
  | .ok (g, [], _) => .run (c.command g)
  | .ok (_, a :: _, _) => .misuse (.unexpected a)
  | .error .helpAsked => .print c.help
  | .error .versionAsked => .misuse (.unexpected "--version")
  | .error (.fault f) => .misuse f

/-- What the arguments after `help` ask for. -/
def readHelp : List String → Invocation
  | [] => .print programHelp
  | ["help"] => .print helpHelp
  | a :: rest =>
    match CommandName.all.find? (·.text = a), rest with
    | some c, [] => .print c.help
    | some _, b :: _ => .misuse (.unknownCommand b)
    | none, _ => .misuse (.unknownCommand a)

/-- What arguments ask for. -/
def Invocation.ofArguments (arguments : List String) : Invocation :=
  match readOptions programOptions none arguments [] with
  | .ok (_, [], _) => .misuse .noCommand
  | .ok (_, a :: _, true) => .misuse (.unexpected a)
  | .ok (_, a :: rest, false) =>
    if a = "help" then readHelp rest
    else match CommandName.all.find? (·.text = a) with
      | some c => c.read rest
      | none => .misuse (.unknownCommand a)
  | .error .helpAsked => .print programHelp
  | .error .versionAsked => .print versionText
  | .error (.fault f) => .misuse f

/-- What a run of the program in a world answers: its exit status, and the world with what
was printed. -/
def Invocation.runIn (w : World) : Invocation → Nat × World
  | .run c =>
    let (result, w) := w.run c
    (exitStatus result, w)
  | .print text => (0, { w with printed := w.printed ++ Text.lines text })
  | .misuse _ => (2, w)

end ComponentWiring
