import RowFilter.Command.Invocation
import RowFilter.Command.Report
import RowFilter.Config.Example
import RowFilter.Conversion.Backward
import RowFilter.Files.Access
import RowFilter.Json.Reader
import RowFilter.Predicate.Selector
import RowFilter.Query.Resolver

/-! Running commands. A run prints something or fails, and a run that fails prints nothing and
    changes no file. -/

namespace RowFilter

/-- Why a command fails. -/
inductive CommandError where
  | filter (e : FilterError)
  /-- The rows are some other document than an array. -/
  | notRows (j : Json)
  | config (e : ConfigError)
  | unreadableRows
  | malformedRows
  deriving DecidableEq, Repr

namespace CommandError

/-- The kind of a document in words. -/
def kindWords : Json → String
  | .null => "null"
  | .bool _ => "a boolean"
  | .number _ => "a number"
  | .text _ => "a string"
  | .array _ => "an array"
  | .object _ => "an object"

/-- The error in words. -/
def message : CommandError → String
  | filter e => "filter error: " ++ e.message
  | notRows j => "invalid input: rows must be a JSON array, got " ++ kindWords j
  | config e => "configuration error: " ++ e.message
  | unreadableRows => "I/O error: the rows cannot be read"
  | malformedRows => "serialization error: the rows are not a JSON document"

/-- The code that tells programs what went wrong. -/
def code : CommandError → String
  | filter (.malformed _) => "PARSE_ERROR"
  | filter (.resolution _) => "SCHEMA_ERROR"
  | filter _ => "FILTER_ERROR"
  | notRows _ => "INPUT_ERROR"
  | config _ => "CONFIG_ERROR"
  | unreadableRows => "IO_ERROR"
  | malformedRows => "JSON_ERROR"

/-- The number with which the program exits. -/
def exitCode : CommandError → Nat
  | config _ | filter (.resolution (.entity _)) => 5
  | unreadableRows => 3
  | filter _ | notRows _ | malformedRows => 1

end CommandError

/-- What a run prints. -/
structure Printed where
  out : String
  err : String
  deriving DecidableEq, Repr, Inhabited

namespace Printed

/-- Nothing. -/
def nothing : Printed := ⟨"", ""⟩

/-- A text on standard output. -/
def text (s : String) : Printed := ⟨s, ""⟩

end Printed

/-- A run as a whole: a command that ran to its end, one that failed, or arguments that are no
    command, with the options as far as they are known. -/
inductive Outcome where
  | done (p : Printed)
  | failed (o : Options) (e : CommandError)
  | refused (u : Usage)
  deriving DecidableEq, Repr

namespace Selection

/-- The filter of a selection. A query string that carries none that can be read admits every
    row. -/
def filter (s : Selection) : Except FilterError Filter :=
  match s.source with
  | .absent => .ok .empty
  | .simple text => Filter.readSimple text
  | .complex text => Filter.readComplex text
  | .query text => .ok (Resolver.standard.resolveQuery text)

/-- The entity of a selection and the predicate on it. -/
def compile (s : Selection) (c : Config) : Except CommandError (String × Predicate) := do
  let entity ← (c.choose s.entity).mapError .config
  let f ← s.filter.mapError .filter
  let p ← (c.schema.compile entity f).mapError .filter
  return (entity, p)

end Selection

namespace Command

/-! ### Commands on the schema -/

/-- Prints a predicate. -/
def runCompile (o : Options) (c : Config) (s : Selection) (sql : Bool) :
    Except CommandError Printed := do
  let (entity, p) ← s.compile c
  return .text <|
    if o.json then Report.compiledJson entity p
    else if sql then Report.sqlText o.colors p
    else Style.line p.display

/-- Prints the filter that the predicate of a filter stands for. -/
def runReverse (o : Options) (c : Config) (s : Selection) : Except CommandError Printed := do
  let (entity, p) ← s.compile c
  let f ← (c.schema.recover entity p).mapError .filter
  return {
    out := if o.json then Report.reversedJson entity p f else Report.reversedText o.colors f
    err := if o.verbose then Style.line ("predicate: " ++ p.display) else "" }

/-- The rows that a text holds. -/
def rowsOf (text : String) : Except CommandError (List Json) :=
  match Json.parse text with
  | none => .error .malformedRows
  | some (.array rows) => .ok rows
  | some j => .error (.notRows j)

/-- Prints the rows that meet a predicate. -/
def printRows (o : Options) (p : Predicate) (rows : List Json) : Printed :=
  let kept := (Selector.ofPredicate p).rows rows
  if o.json then .text (Report.rowsJson kept rows.length)
  else {
    out := Report.rowLines kept
    err := if o.quiet then "" else Report.rowSummary kept.length rows.length }

/-- Prints the rows of a text, if it could be read, that meet a predicate. -/
def printRowsOf (o : Options) (p : Predicate) : Option String → Except CommandError Printed
  | none => .error .unreadableRows
  | some text => printRows o p <$> rowsOf text

/-- Prints a table or a document about the schema. -/
def runSchema (o : Options) (c : Config) (entity : Option String) :
    Except CommandError Printed :=
  match entity with
  | none =>
    .ok <|
      if o.json then .text (Report.entitiesJson c.schema.entities c.defaultEntity)
      else if o.quiet then .nothing
      else .text (Report.entityTable o.colors c.schema.entities c.defaultEntity)
  | some name => match c.schema.entity? name with
    | none => .error (.filter (.resolution (.entity name)))
    | some fields =>
      .ok <|
        if o.json then .text (Report.entitiesJson [(name, fields)] c.defaultEntity)
        else if o.quiet then .nothing
        else .text (Report.fieldTable o.colors name fields)

/-! ### Commands with files -/

variable {m : Type → Type} [Monad m]

/-- A command that may fail. -/
abbrev Attempt (m : Type → Type) := ExceptT CommandError m

/-- The path of the configuration. -/
def configPath (e : Environment) : Attempt m String :=
  match e.configPath? with
  | some path => return path
  | none => throw (.config .noLocation)

/-- The configuration, an empty one if there is no file. -/
def loadConfig (files : Files m) (path : String) : Attempt m Config := do
  if ← files.isPresent path then
    match ← files.read path with
    | none => throw (.config .unreadable)
    | some text => match Config.read text with
      | .ok c => return c
      | .error e => throw (.config e)
  else return .empty

/-- The path stands for standard input: a dash, with nothing behind it that leads elsewhere. -/
def isInput (path : String) : Bool :=
  match Text.split '/' path.toList with
  | ['-'] :: rest => rest.all fun part => part == [] || part == ['.']
  | _ => false

/-- Prints the rows of a file, or of standard input, that meet the predicate of a filter. -/
def runApply (files : Files m) (o : Options) (c : Config) (s : Selection) (rows : String) :
    Attempt m Printed := do
  let (_, p) ← ofExcept (s.compile c)
  let text ← (if isInput rows then files.input else files.read rows : m (Option String))
  ofExcept (printRowsOf o p text)

/-- Prints the configuration. -/
def showConfig (files : Files m) (o : Options) (path : String) : Attempt m Printed := do
  let c ← loadConfig files path
  let present ← files.isPresent path
  return if o.json then .text (Report.configJson c path present)
    else if o.quiet then .nothing
    else .text (Report.configText o.colors c path present)

/-- Prints the path of the configuration. -/
def showPath (files : Files m) (o : Options) (path : String) : Attempt m Printed := do
  if o.json then return .text (Report.pathJson path (← files.isPresent path))
  else return .text (Style.line path)

/-- Makes the directory that a path leads into. -/
def makeParent (files : Files m) (path : String) : Attempt m Unit := do
  if let some directory := parentPath? path then
    unless ← files.makeDirectory directory do
      throw (.config .noDirectory)

/-- Puts the example at a path. -/
def writeExample (files : Files m) (o : Options) (path : String) : Attempt m Printed := do
  unless ← files.write path Config.exampleText do
    throw (.config .unwritable)
  return if o.json then .text (Report.createdJson path)
    else if o.quiet then .nothing
    else .text (Report.createdText path)

/-- Writes the example as the configuration. A file that is there is kept unless that is forced. -/
def initConfig (files : Files m) (o : Options) (path : String) (force : Bool) :
    Attempt m Printed := do
  if (← files.isPresent path) && !force then
    throw (.config (.present path))
  makeParent files path
  writeExample files o path

/-- Runs a command. -/
def run (files : Files m) (e : Environment) (o : Options) : Command → Attempt m Printed
  | overview => return if o.quiet then .nothing else .text Report.overview
  | completions _ => return .nothing
  | config .display => do showConfig files o (← configPath e)
  | config .path => do showPath files o (← configPath e)
  | config (.init force) => do initConfig files o (← configPath e) force
  | compile s sql => do
    let c ← loadConfig files (← configPath e)
    ofExcept (runCompile o c s sql)
  | reverse s => do
    let c ← loadConfig files (← configPath e)
    ofExcept (runReverse o c s)
  | apply s rows => do
    let c ← loadConfig files (← configPath e)
    runApply files o c s rows
  | schema entity => do
    let c ← loadConfig files (← configPath e)
    ofExcept (runSchema o c entity)

/-- Runs the command that arguments write. -/
def runArguments (files : Files m) (e : Environment) (arguments : List String) : m Outcome := do
  match Invocation.read e arguments with
  | .error u => return .refused u
  | .ok i => match ← (i.command.run files e i.options).run with
    | .ok p => return .done p
    | .error err => return .failed i.options err

end Command

end RowFilter
