import RowFilter.Text.Split

/-! Grammars of command lines, and reading arguments by them. A command has options, at most one
    positional argument, and subcommands with grammars of their own. An option that takes a value
    waits for it, and is settled when the next option comes or the arguments end; the faults of a
    whole command are looked for last, those of a subcommand before those of the command. -/

namespace RowFilter

/-- An option, or a positional argument. -/
structure Argument where
  name : String
  letter : Option Char
  takesValue : Bool
  accepts : String → Bool

/-- The grammar of a command. -/
structure Grammar where
  name : String
  aliases : List String
  options : List Argument
  positional : Option Argument
  /-- Names of arguments that exclude each other. -/
  exclusive : List (String × String)
  /-- Names of arguments that may not be missing. -/
  required : List String
  subcommands : List Grammar

/-- Why arguments give no command to run. -/
inductive Usage where
  | unknownArgument
  | unknownCommand
  /-- An option is repeated, or stands beside one that excludes it. -/
  | conflict
  | missingArgument
  | invalidValue
  /-- An option that takes no value is given one. -/
  | needlessValue
  /-- Help is asked for. -/
  | help
  /-- The version is asked for. -/
  | version
  deriving DecidableEq, Repr, Inhabited

namespace Argument

/-- An option without a value. -/
def flag (name : String) (letter : Option Char) : Argument :=
  ⟨name, letter, false, fun _ => true⟩

/-- An option with a value of any kind. -/
def option (name : String) (letter : Option Char) : Argument :=
  ⟨name, letter, true, fun _ => true⟩

/-- The option that asks for help. -/
def help : Argument := flag "help" (some 'h')

/-- The option that asks for the version. -/
def version : Argument := flag "version" (some 'V')

end Argument

namespace Grammar

/-- The command that explains others. It comes with every command that has subcommands. -/
def helpName : String := "help"

/-- The grammar of the command that explains others. -/
def helper : Grammar := ⟨helpName, [], [], none, [], [], []⟩

/-- The command goes by this name. -/
def answersTo (g : Grammar) (name : String) : Bool :=
  g.name == name || g.aliases.contains name

/-- The subcommand of a name. -/
def subcommand? (g : Grammar) (name : String) : Option Grammar :=
  if g.subcommands.isEmpty then none
  else if name == helpName then some helper
  else g.subcommands.find? (·.answersTo name)

/-- Every option, those for help and the version included. -/
def allOptions (g : Grammar) : List Argument :=
  g.options ++ [.help, .version]

end Grammar

/-! ### Commands in the making -/

/-- A command with the arguments read so far. -/
structure Level where
  grammar : Grammar
  flags : List String
  values : List (String × String)
  /-- The argument that is not settled yet, with its value if that has come. -/
  pending : Option (Argument × Option String)

namespace Level

/-- A command without arguments. -/
def start (g : Grammar) : Level := ⟨g, [], [], none⟩

/-- The argument is there. -/
def has (l : Level) (name : String) : Bool :=
  l.flags.contains name || (l.values.lookup name).isSome

/-- Gives an argument its value. -/
def assign (l : Level) (a : Argument) (value : Option String) : Except Usage Level :=
  match value with
  | none => .error .invalidValue
  | some v =>
    if l.has a.name then .error .conflict
    else if a.accepts v then .ok { l with values := l.values ++ [(a.name, v)] }
    else .error .invalidValue

/-- Settles the argument that waits. -/
def settle (l : Level) : Except Usage Level :=
  match l.pending with
  | none => .ok l
  | some (a, value) => { l with pending := none }.assign a value

/-- Sets an option without a value. -/
def setFlag (l : Level) (a : Argument) : Except Usage Level := do
  let l ← l.settle
  if a.name == Argument.help.name then .error .help
  else if a.name == Argument.version.name then .error .version
  else if l.has a.name then .error .conflict
  else .ok { l with flags := l.flags ++ [a.name] }

/-- Sets an option with a value that is attached to it. -/
def setValue (l : Level) (a : Argument) (value : String) : Except Usage Level := do
  (← l.settle).assign a (some value)

/-- Lets an argument wait for its value, or with it. -/
def await (l : Level) (a : Argument) (value : Option String) : Except Usage Level := do
  return { ← l.settle with pending := some (a, value) }

/-- Looks for the faults of the whole command. -/
def check (l : Level) : Except Usage Level := do
  let l ← l.settle
  if l.grammar.exclusive.any fun (a, b) => l.has a && l.has b then .error .conflict
  else if l.grammar.required.all l.has then .ok l
  else .error .missingArgument

end Level

/-! ### Reading -/

/-- The state of reading. -/
structure Parsing where
  /-- The commands that were left for a subcommand, the last one first. -/
  outer : List Level
  level : Level
  /-- The next argument is the value of an option. -/
  expecting : Bool
  /-- Two hyphens came: all that follows is positional. -/
  positionalOnly : Bool
  /-- The positional argument came. -/
  filled : Bool

/-- Where reading stands: among the arguments of a command, or among the names of the command that
    help is asked for. -/
inductive Stage where
  | reading (p : Parsing)
  | helping (g : Grammar)

namespace Parsing

/-- Reads an option by its long name, with a value if one is attached. -/
def long (p : Parsing) (cs : List Char) : Except Usage Parsing :=
  match Text.cut '=' cs with
  | (name, value) =>
    match p.level.grammar.allOptions.find? (·.name == String.ofList name), value with
    | none, _ => .error .unknownArgument
    | some a, some v =>
      if a.takesValue then do
        return { p with level := ← p.level.setValue a (String.ofList v), expecting := false }
      else .error .needlessValue
    | some a, none =>
      if a.takesValue then do
        return { p with level := ← p.level.await a none, expecting := true }
      else do
        return { p with level := ← p.level.setFlag a, expecting := false }

/-- Reads options by their letters. The first one that takes a value takes what follows it. -/
def short (p : Parsing) : List Char → Except Usage Parsing
  | [] => .ok p
  | c :: rest =>
    match p.level.grammar.allOptions.find? (·.letter == some c) with
    | none => .error .unknownArgument
    | some a =>
      if a.takesValue then
        match rest with
        | [] => do
          return { p with level := ← p.level.await a none, expecting := true }
        | '=' :: value => do
          return { p with level := ← p.level.setValue a (String.ofList value), expecting := false }
        | value => do
          return { p with level := ← p.level.setValue a (String.ofList value), expecting := false }
      else do
        short { p with level := ← p.level.setFlag a, expecting := false } rest

/-- Reads a positional argument. -/
def plain (p : Parsing) (s : String) : Except Usage Parsing :=
  match p.level.grammar.positional, p.filled with
  | some a, false => do
    return { p with level := ← p.level.await a (some s), expecting := false, filled := true }
  | _, _ =>
    let g := p.level.grammar
    if g.subcommands.isEmpty || (p.positionalOnly && (g.subcommand? s).isSome) then
      .error .unknownArgument
    else .error .unknownCommand

/-- Reads the value of the option that waits for it. -/
def value (p : Parsing) (s : String) : Parsing :=
  { p with
    level := { p.level with pending := p.level.pending.map fun w => (w.1, some s) }
    expecting := false }

/-- Reads an argument that names no subcommand. -/
def argument (p : Parsing) (s : String) : Except Usage Parsing :=
  if p.positionalOnly then p.plain s
  else match s.toList with
    | ['-', '-'] => .ok { p with positionalOnly := true }
    | '-' :: '-' :: cs => p.long cs
    | '-' :: c :: cs => p.short (c :: cs)
    | _ => if p.expecting then .ok (p.value s) else p.plain s

end Parsing

namespace Stage

/-- Reads one argument. -/
def step (stage : Stage) (s : String) : Except Usage Stage :=
  match stage with
  | helping g => match g.subcommand? s with
    | some sub => .ok (helping sub)
    | none => .error .unknownCommand
  | reading p =>
    let sub? := if p.positionalOnly || p.expecting then none else p.level.grammar.subcommand? s
    match sub? with
    | some sub =>
      if sub.name == Grammar.helpName then .ok (helping p.level.grammar)
      else .ok (reading ⟨p.level :: p.outer, .start sub, false, false, false⟩)
    | none => reading <$> p.argument s

/-- The commands that were read, each followed by its subcommand. -/
def finish : Stage → Except Usage (List Level)
  | helping _ => .error .help
  | reading p => do
    let levels ← (p.level :: p.outer).mapM Level.check
    return levels.reverse

end Stage

/-- Reads arguments: the commands with their options and values, the outermost one first. -/
def Grammar.read (g : Grammar) (arguments : List String) : Except Usage (List Level) := do
  let stage ← arguments.foldlM Stage.step (.reading ⟨[], .start g, false, false, false⟩)
  stage.finish

end RowFilter
