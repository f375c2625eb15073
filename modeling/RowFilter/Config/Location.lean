import RowFilter.Text.Split

/-! Where the configuration is kept. -/

namespace RowFilter

/-- The variables of the environment that matter. -/
structure Environment where
  /-- The path of the configuration itself. -/
  config : Option String
  /-- The directory of all configurations of a user. -/
  configHome : Option String
  /-- The home directory of a user. -/
  home : Option String
  /-- Whether colours are unwanted. -/
  noColor : Option String
  deriving DecidableEq, Repr, Inhabited

namespace Environment

/-- A path with a name appended. -/
def join (path name : String) : String :=
  if path.isEmpty || path.toList.getLast? == some '/' then path ++ name else path ++ "/" ++ name

/-- The path of the configuration: the one that is given, or a place below the directory of
    configurations. -/
def configPath? (e : Environment) : Option String :=
  match e.config with
  | some path => some path
  | none =>
    let directory? := match e.configHome with
      | some directory => some directory
      | none => (e.home.filter fun (home : String) => !home.isEmpty).map fun home => join home ".config"
    directory?.map fun directory => join (join directory "rq") "config.toml"

end Environment

/-- The path without its last name, if it has one. -/
def parentPath? (path : String) : Option String :=
  let parts := ((Text.split '/' path.toList).reverse.dropWhile fun part =>
    part == [] || part == ['.']).reverse
  if parts.isEmpty then none
  else some (String.intercalate "/" (parts.dropLast.map String.ofList))

end RowFilter
