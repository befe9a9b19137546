import SearchBuilder.Log.Clock
import SearchBuilder.Log.Level
import SearchBuilder.Text.Split

/-!
# Log setups

A setup says from which level on records are written to the error stream, and to which file all
records are written that are worth at least `debug`. Either writes the records in the order in
which they come, each once.

A setup never looks at records below its own level, which is that of the stream or `debug`,
whichever is less. If that is no level at all, the level of warnings holds.
-/

namespace SearchBuilder

/-- Something to be logged, at a time in seconds. -/
structure LogRecord where
  level : Level
  message : String
  time : Int
  deriving DecidableEq, Repr

/-- Where records are written. -/
structure LogSetup where
  /-- The least level that is written to the error stream. -/
  streamLevel : Level
  /-- The file for all records, if there is one. -/
  file : Option String
  deriving DecidableEq, Repr

/-- Why logging cannot be set up. -/
inductive LogFault where
  | level (fault : LevelFault)
  /-- The log file cannot be opened. -/
  | unopened (path : String)
  deriving DecidableEq, Repr

/-- What writes records, with the least level that it writes. -/
inductive LogSink where
  | stream (level : Level)
  | file (level : Level)
  deriving DecidableEq, Repr

/-- The records that have been written, in order. -/
structure LogOutput where
  stream : List LogRecord := []
  file : List LogRecord := []
  deriving DecidableEq, Repr

/-- A sink adds a record to what it has written, unless the record is below its level. -/
def LogSink.write (r : LogRecord) (out : LogOutput) : LogSink → LogOutput
  | stream level => if level ≤ r.level then { out with stream := out.stream ++ [r] } else out
  | file level => if level ≤ r.level then { out with file := out.file ++ [r] } else out

namespace LogRecord

/-- The record of a notice. -/
def ofNotice (time : Int) (n : Notice) : LogRecord := ⟨n.severity.level, n.message, time⟩

/-- A record without its time. -/
def entry (level : Level) (message : String) : String := s!"[{level.label}] {message}"

/-- The text of a record. -/
def text (r : LogRecord) : String := s!"{Clock.stamp r.time} {entry r.level r.message}"

/-- The lines of a record: a message may have more than one. -/
def lines (r : LogRecord) : List String := (splitAtChar '\n' r.text.toList).map String.ofList

end LogRecord

namespace LogSetup

/-- The directory of log files unless another is given. -/
def usualDirectory : String := "log"

/-- The slashes that make a path absolute. Two are kept, more are as good as one. -/
def pathRoot (path : String) : String :=
  match path.toList.takeWhile (· = '/') with
  | [] => ""
  | ['/', '/'] => "//"
  | _ => "/"

/-- The steps of a path, without empty ones and those that lead nowhere. -/
def pathSteps (path : String) : List (List Char) :=
  (splitAtChar '/' path.toList).filter fun step => step ≠ [] && step ≠ ['.']

/-- A path from a directory on. An absolute path stands by itself. -/
def joinPath (directory path : String) : String :=
  let text (root : String) (steps : List (List Char)) : String :=
    root ++ "/".intercalate (steps.map String.ofList)
  if (pathRoot path).isEmpty then
    text (pathRoot directory) (pathSteps directory ++ pathSteps path)
  else text (pathRoot path) (pathSteps path)

/-- The log file of an action; `TIME` stands for the time when it is opened. -/
def filePath (directory action : String) : String :=
  let directory := if directory.isEmpty then usualDirectory else directory
  joinPath (joinPath directory action) s!"{action}_TIME.log"

/-- The file that an action asks for: none unless it is named and files are wanted. -/
def file? (directory : String) (action : Option String) (toFile : Bool) : Option String :=
  action.bind fun action =>
    if toFile && !action.isEmpty then some (filePath directory action) else none

/-- The setup for a level by its name. `opens` says which files can be opened. -/
def make (opens : String → Bool) (level action : Option String) (toFile : Bool)
    (directory : String) : Except LogFault LogSetup := do
  let streamLevel ← (Level.ofName level).mapError .level
  match file? directory action toFile with
  | some path =>
    if opens path then .ok { streamLevel, file := some path } else .error (.unopened path)
  | none => .ok { streamLevel, file := none }

/-- The level below which records are not even looked at. -/
def level (s : LogSetup) : Level := min .debug s.streamLevel

/-- Whether records of a level are looked at. -/
def isEnabled (s : LogSetup) (level : Level) : Bool :=
  (if s.level = .unset then Level.warning else s.level) ≤ level

/-- What writes records. -/
def sinks (s : LogSetup) : List LogSink :=
  .stream s.streamLevel :: (s.file.map fun _ => .file .debug).toList

/-- A record is offered: if it is looked at, each sink has it in turn. -/
def offer (s : LogSetup) (out : LogOutput) (r : LogRecord) : LogOutput :=
  if s.isEnabled r.level then s.sinks.foldl (LogSink.write r) out else out

/-- What is written when records are offered one after another. -/
def run (s : LogSetup) (records : List LogRecord) : LogOutput := records.foldl s.offer {}

/-- The lines that are written to the error stream. -/
def streamLines (s : LogSetup) (records : List LogRecord) : List String :=
  (s.run records).stream.flatMap LogRecord.lines

/-- The file and the lines that are written to it. -/
def fileLines (s : LogSetup) (records : List LogRecord) : Option (String × List String) :=
  s.file.map fun path => (path, (s.run records).file.flatMap LogRecord.lines)

/-- The messages that are written to the error stream, without their times. -/
def entries (s : LogSetup) (notices : List Notice) : List String :=
  (s.run (notices.map (LogRecord.ofNotice 0))).stream.map fun r => LogRecord.entry r.level r.message

end LogSetup

end SearchBuilder
