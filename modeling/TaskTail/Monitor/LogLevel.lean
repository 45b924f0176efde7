/-
How much a monitor logs.  A level is given by its name in any case or by its number, counted from the fewest events;
directives in the environment take its place unless they are blank.
-/
import TaskTail.Text.Blank
import TaskTail.Text.Decimal
namespace TaskTail

/-- The levels, from the fewest events to the most. -/
inductive LogLevel
  | error
  | warn
  | info
  | debug
  | trace
  deriving DecidableEq, Repr, Inhabited

namespace LogLevel

/-- The levels in the order of their numbers, each with its name. -/
def table : List (LogLevel × String) :=
  [(error, "error"), (warn, "warn"), (info, "info"), (debug, "debug"), (trace, "trace")]

def name (level : LogLevel) : String :=
  (table.lookup level).getD ""

/-- The level that a text names or numbers. -/
def parse? (s : String) : Option LogLevel :=
  match Text.decimalUpTo? table.length s with
  | some 0 => none
  | some (n + 1) => (table[n]?).map Prod.fst
  | none => (table.find? fun row => s.toList.map Char.toLower = row.2.toList).map Prod.fst

/-- The directives for the logger: those of the environment without the blanks around them, if any are left. -/
def directives (level : LogLevel) (environment : Option String) : String :=
  match environment.map Text.trim with
  | some text => if text = "" then level.name else text
  | none => level.name

end LogLevel

end TaskTail
