import SearchBuilder.Document.Outcome
import SearchBuilder.Number.Notation
import SearchBuilder.Text.Case

/-!
# Log levels

A level is a number: the greater, the weightier. Some levels have names, by which they are chosen,
and short labels, by which they are shown. Two more names are taken by something that is no level;
to choose them is a mistake.
-/

namespace SearchBuilder

/-- The weight of a log record. -/
abbrev Level := Int

/-- Why a name chooses no level. -/
inductive LevelFault where
  /-- It is the name of a text, and the text names no level. -/
  | text
  /-- It is the name of a table. -/
  | table
  deriving DecidableEq, Repr

namespace Level

/-- No level at all. -/
def unset : Level := 0

def debug : Level := 10

def info : Level := 20

def warning : Level := 30

def error : Level := 40

def critical : Level := 50

/-- The names by which levels are chosen. -/
def names : List (String × Level) :=
  [("DEBUG", debug), ("INFO", info), ("WARNING", warning), ("WARN", warning), ("ERROR", error),
    ("CRITICAL", critical), ("FATAL", critical), ("NOTSET", unset)]

/-- The names that are taken by something else. -/
def taken : List (String × LevelFault) := [("BASIC_FORMAT", .text), ("_STYLES", .table)]

/-- The level of a name in any letter case. Any name but those above, and none at all, means
`info`. -/
def ofName (name : Option String) : Except LevelFault Level :=
  let name := upper (name.getD "")
  match Entries.get? taken name with
  | some fault => .error fault
  | none => .ok ((Entries.get? names name).getD info)

/-- The label of a level, four letters long. -/
def label (level : Level) : String :=
  if level = debug then "DEBG"
  else if level = info then "INFO"
  else if level = warning then "WARN"
  else if level = error || level = critical then "ERRO"
  else if level = unset then "NOTS"
  else "Leve"

end Level

/-- The level of a message. -/
def Severity.level : Severity → Level
  | debug => .debug
  | info => .info
  | warning => .warning
  | error => .error

end SearchBuilder
