import RowFilter.Command.Grammar
import RowFilter.Config.Location
import RowFilter.Text.Lowercase

/-! The commands of the program, and reading one from the arguments of a run. -/

namespace RowFilter

/-- Options that every command has. -/
structure Options where
  verbose : Bool
  quiet : Bool
  json : Bool
  colors : Bool
  deriving DecidableEq, Repr, Inhabited

/-- Where a command takes its filter from. -/
inductive FilterSource where
  | absent
  | simple (text : String)
  | complex (text : String)
  | query (text : String)
  deriving DecidableEq, Repr, Inhabited

/-- A filter and the entity it is meant for, if that is named. -/
structure Selection where
  source : FilterSource
  entity : Option String
  deriving DecidableEq, Repr, Inhabited

/-- A command on the configuration. -/
inductive ConfigCommand where
  | display
  | path
  | init (force : Bool)
  deriving DecidableEq, Repr, Inhabited

/-- A command. -/
inductive Command where
  | overview
  | compile (selection : Selection) (sql : Bool)
  | reverse (selection : Selection)
  | apply (selection : Selection) (rows : String)
  | schema (entity : Option String)
  | config (command : ConfigCommand)
  | completions (shell : String)
  deriving DecidableEq, Repr, Inhabited

/-- A command with the options of the run. -/
structure Invocation where
  options : Options
  command : Command
  deriving DecidableEq, Repr, Inhabited

namespace Command

/-! ### Grammar -/

/-- The options of every command. -/
def commonOptions : List Argument :=
  [.flag "verbose" (some 'v'), .flag "quiet" (some 'q'), .flag "json" none, .flag "no-color" none]

/-- A verbose run is not quiet. -/
def commonExclusive : List (String × String) :=
  [("quiet", "verbose")]

/-- The grammar of a command that has the common options alone. -/
def bareGrammar (name : String) : Grammar :=
  ⟨name, [], commonOptions, none, commonExclusive, [], []⟩

/-- The grammar of a command on a filter. A filter comes from one source. -/
def filterGrammar (name alternative : String) (more : List Argument) : Grammar :=
  { bareGrammar name with
    aliases := [alternative]
    options := commonOptions ++
      [.option "filter" (some 'f'), .option "complex" (some 'c'), .option "query" none,
        .option "entity" (some 'e')] ++ more
    exclusive := commonExclusive ++
      [("filter", "complex"), ("filter", "query"), ("complex", "query")] }

/-- The shells that completions can be asked for. -/
def shells : List String := ["bash", "zsh", "fish", "powershell"]

/-- The option that names the file with the rows. -/
def rowsOption : Argument :=
  { Argument.option "rows" none with accepts := fun s => !s.isEmpty }

/-- The grammar of commands on the configuration. -/
def configGrammar : Grammar :=
  { bareGrammar "config" with
    subcommands := [bareGrammar "show", bareGrammar "path",
      { bareGrammar "init" with options := commonOptions ++ [.flag "force" none] }] }

/-- The grammar of the program. -/
def grammar : Grammar :=
  { bareGrammar "rq" with
    subcommands :=
      [filterGrammar "compile" "c" [.flag "sql" none],
        filterGrammar "reverse" "r" [],
        { filterGrammar "apply" "a" [rowsOption] with required := [rowsOption.name] },
        { bareGrammar "schema" with positional := some (.option "entity" none) },
        configGrammar,
        { bareGrammar "completions" with
          positional := some ⟨"shell", none, true, shells.contains⟩
          required := ["shell"] }] }

/-! ### Reading -/

/-- The selection of a command on a filter. -/
def selectionOf (l : Level) : Selection where
  source := match l.values.lookup "filter", l.values.lookup "complex", l.values.lookup "query" with
    | some s, _, _ => .simple s
    | none, some s, _ => .complex s
    | none, none, some s => .query s
    | none, none, none => .absent
  entity := l.values.lookup "entity"

/-- The command on the configuration, showing it if no other is named. -/
def configOf : List Level → ConfigCommand
  | [] => .display
  | l :: _ =>
    if l.grammar.name == "path" then .path
    else if l.grammar.name == "init" then .init (l.has "force")
    else .display

/-- The command that subcommands of the program name. -/
def ofLevels : List Level → Command
  | [] => overview
  | l :: rest =>
    let name := l.grammar.name
    if name == "compile" then compile (selectionOf l) (l.has "sql")
    else if name == "reverse" then reverse (selectionOf l)
    else if name == "apply" then apply (selectionOf l) ((l.values.lookup "rows").getD "")
    else if name == "schema" then schema (l.values.lookup "entity")
    else if name == "config" then config (configOf rest)
    else completions ((l.values.lookup "shell").getD "")

end Command

namespace Environment

/-- The words for "no" as the value of a variable. -/
def negations : List String := ["", "n", "no", "f", "false", "off", "0"]

/-- Colours are unwanted: the variable is there and says anything but "no". -/
def refusesColors (e : Environment) : Bool :=
  match e.noColor with
  | some s => !negations.contains (String.ofList (Text.lowercase s.toList))
  | none => false

end Environment

namespace Invocation

/-- The invocation that arguments write. An option of every command may stand at any of them. -/
def read (e : Environment) (arguments : List String) : Except Usage Invocation := do
  let levels ← Command.grammar.read arguments
  let has (name : String) : Bool := levels.any (·.has name)
  return {
    options := ⟨has "verbose", has "quiet", has "json", !has "no-color" && !e.refusesColors⟩
    command := .ofLevels levels.tail }

end Invocation

end RowFilter
