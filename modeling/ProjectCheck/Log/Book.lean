import ProjectCheck.Log.Line
import ProjectCheck.Settings.Scalar
import ProjectCheck.Settings.Sections

/-!
# Where log lines go

An entry is logged if its level reaches that of the log, and goes to every place whose own level it
reaches too.  A place without a level has that of the log.  The first place that is a file is where
messages point the reader to.
-/

namespace ProjectCheck

open ProjectCheck.Settings

namespace LogOutput

/-- Whether the lines of a place go to a file. -/
def isFile (output : LogOutput) : Bool :=
  !streamNames.contains output.destination

/-- A record in the format of a place, if it can be written. -/
def text? (output : LogOutput) (r : LogRecord) : Option String :=
  match output.format with
  | .json => some r.jsonLine
  | .console => r.consoleText?

end LogOutput

/-- The level below which a logger says nothing, whatever the settings: the one that reports on slow
steps would drown all others. -/
def LogRecord.floor (r : LogRecord) : LogLevel :=
  if r.logger == "asyncio" || "asyncio.".isPrefixOf r.logger then .warning else .debug

namespace LoggingSettings

/-- The simple settings: one level, and the error stream in one format. -/
def simple (level : LogLevel) (format : LogFormat) : LoggingSettings :=
  { level, outputs := [{ format }] }

/-- Reads the name of a level for the simple settings, in any letter case. -/
def readSimple (format : LogFormat) (level : String) : Reading LoggingSettings :=
  let capital := fun c => if c == 'ı' then 'I' else c.toUpper
  let name := String.ofList (level.toList.map capital)
  (readChoice LogLevel.choices (.text name)).map (simple · format) |>.beyond (.name "level")

/-- The file that the first place for lines in a file names. -/
def firstFile (s : LoggingSettings) : Option String :=
  (s.outputs.find? LogOutput.isFile).map (·.destination)

/-- The places that lines may go to: the standard streams and all files. -/
def destinations (s : LoggingSettings) : List String :=
  (streamNames ++ s.outputs.map (·.destination)).eraseDups

/-- Whether a record is logged at all. -/
def accepts (s : LoggingSettings) (r : LogRecord) : Bool :=
  r.entry.level.reaches s.level && r.entry.level.reaches r.floor

/-- Whether a place takes a record that is logged. -/
def takes (s : LoggingSettings) (output : LogOutput) (r : LogRecord) : Bool :=
  r.entry.level.reaches (output.level.getD s.level)

/-- What is written of a record, each text with the place it goes to.  Where no place is set, warnings and worse
events are shown on the error stream. -/
def route (s : LoggingSettings) (r : LogRecord) : List (String × String) :=
  if !s.accepts r then []
  else if s.outputs.isEmpty then
    if r.entry.level.reaches .warning then [("stderr", r.shownLine)] else []
  else
    (s.outputs.filter (s.takes · r)).filterMap fun output =>
      (output.text? r).map fun text => (output.destination, text)

end LoggingSettings

/-!
## Log books

A log book holds all that a log has written, the latest first, and the request that is at work.
What is reported while a request is at work belongs to it.
-/

/-- What a log has written, and the request at work. -/
structure LogBook where
  settings : LoggingSettings
  request : Option String := none
  written : List (String × String) := []

namespace LogBook

/-- The names that no field of an event may have. -/
def takenNames : List String :=
  ["event", "self"]

/-- Whether the fields of an entry can be told from what is passed on with it. -/
def canTake (book : LogBook) (entry : LogEntry) : Bool :=
  !takenNames.any (Table.has · entry.fields) &&
    !(Table.has "method_name" entry.fields && entry.level.reaches book.settings.level)

/-- Writes an entry of a logger at a time, if the book can take it. -/
def write? (time logger : String) (entry : LogEntry) (book : LogBook) : Option LogBook :=
  if book.canTake entry then
    let texts := book.settings.route { time, logger, request := book.request, entry }
    some { book with written := texts.reverse ++ book.written }
  else none

/-- The lines that stand at a place. -/
def linesAt (place : String) (book : LogBook) : List (List Char) :=
  (book.written.reverse.filter (·.1 == place)).flatMap fun (_, text) =>
    Text.textLines (text.toList ++ ['\n'])

end LogBook

end ProjectCheck
