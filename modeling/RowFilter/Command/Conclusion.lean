import RowFilter.Command.Run

/-! How a run ends: what it prints on either output, and the number with which the program exits. -/

namespace RowFilter

namespace Usage

/-- Why arguments give no command, in words. -/
def words : Usage → String
  | unknownArgument => "error: unexpected argument"
  | unknownCommand => "error: unrecognized subcommand"
  | conflict => "error: arguments that cannot be used together"
  | missingArgument => "error: a required argument was not provided"
  | invalidValue => "error: a value is missing or invalid"
  | needlessValue => "error: unexpected value"
  | help => "Usage: rq [OPTIONS] [COMMAND]"
  | version => "rq 0.1.0"

/-- The arguments ask for words about the program. -/
def isQuestion (u : Usage) : Bool :=
  u == help || u == version

end Usage

namespace CommandError

/-- The report of an error. -/
def report (o : Options) (e : CommandError) : String :=
  if o.json then
    Report.document (.object [("error",
      .object [("code", .text e.code), ("message", .text e.message)])])
  else Style.line ("Error: " ++ e.message)

end CommandError

namespace Outcome

/-- What is printed on standard output. -/
def out : Outcome → String
  | done p => p.out
  | failed _ _ => ""
  | refused u => if u.isQuestion then Style.line u.words else ""

/-- What is printed on standard error. -/
def err : Outcome → String
  | done p => p.err
  | failed o e => e.report o
  | refused u => if u.isQuestion then "" else Style.line u.words

/-- The number with which the program exits. -/
def exitCode : Outcome → Nat
  | done _ => 0
  | failed _ e => e.exitCode
  | refused u => if u.isQuestion then 0 else 2

end Outcome

end RowFilter
