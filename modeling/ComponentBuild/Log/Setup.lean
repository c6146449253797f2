import ComponentBuild.Log.Record
import ComponentBuild.Host
import ComponentBuild.Text.Surrogate
import ComponentBuild.Text.Utf8
import ComponentBuild.Tree.Edit

/-!
Where log records go. Setting the log up replaces every sink there was, so each record is written
at most once to each of the sinks of the last set-up.
-/

namespace ComponentBuild

inductive Sink
  | console
  | file (path : Path)
  | memory
  deriving DecidableEq

structure Handler where
  sink : Sink
  level : Nat
  deriving DecidableEq

structure LogSetup where
  level : Nat
  handlers : List Handler
  deriving DecidableEq

structure LevelFault where
  name : String
  deriving DecidableEq

def LevelFault.message (f : LevelFault) : String := s!"Unknown level: {Text.quoted f.name}"

namespace LogSetup

def levelNumbers : List (String × Nat) :=
  [("CRITICAL", 50), ("FATAL", 50), ("ERROR", 40), ("WARN", 30), ("WARNING", 30), ("INFO", 20),
    ("DEBUG", 10), ("NOTSET", 0)]

def setLevel (setup : LogSetup) (name : String) : Except LevelFault LogSetup :=
  match levelNumbers.lookup name with
  | some n => .ok { setup with level := n }
  | none => .error ⟨name⟩

/-- Whether a logger is below the top one, or is that. On the way up from a name a dot right before
another one is passed over, so two dots behind the name of the top logger lead past it. -/
def isBelowTop (logger : String) : Bool :=
  let dots := (logger.toList.drop (loggerName none).length).takeWhile (· == '.')
  dots.isEmpty || dots.length % 2 == 1

def effectiveLevel (setup : LogSetup) (logger : String) : Nat :=
  if setup.level = 0 || !isBelowTop logger then Level.warning.number else setup.level

def isEnabledFor (setup : LogSetup) (logger : String) (level : Level) : Bool :=
  setup.effectiveLevel logger ≤ level.number

def receivers (setup : LogSetup) (logger : String) (level : Level) : List Sink :=
  if setup.isEnabledFor logger level then
    (setup.handlers.filter fun h => h.level ≤ level.number).map Handler.sink
  else []

def withCause (s : String) (cause : Option Thrown) : String :=
  match cause with
  | none => s ++ "\n"
  | some e => (if s.toList.getLast? = some '\n' then s else s ++ "\n") ++ e.lines

def consoleText (r : LogRecord) : String :=
  withCause s!"[scrtask] {r.level.text} {r.message}" r.cause

def fileText (stamp : String) (r : LogRecord) : String :=
  withCause s!"{stamp}{r.level.text} {r.logger}: {r.message}" r.cause

def levelOf (verbose : Bool) : Level := if verbose then .debug else .info

/-- One console and, if a file is named, that file as well; the file has to be there in the end.
A file that cannot be opened leaves the console alone set up. -/
def configure (host : Host) (verbose : Bool) (file : Option Path) :
    LogSetup × Except FileError Tree :=
  let level := (levelOf verbose).number
  let console : Handler := ⟨.console, level⟩
  match file with
  | none => (⟨level, [console]⟩, .ok host.tree)
  | some p =>
    let path := (host.absolute p).normalized
    match host.tree.append [] path [] with
    | .error e => (⟨level, [console]⟩, .error e)
    | .ok tree => (⟨level, [console, ⟨.file path, level⟩]⟩, .ok tree)

end LogSetup

structure LogOutput where
  console : String
  records : List LogRecord
  tree : Tree

namespace LogOutput

/-- Hands a record to a sink. A log file takes no line that cannot be written in UTF-8; the console
takes any, with such characters escaped. -/
def put (out : LogOutput) (stamp : String) (r : LogRecord) : Sink → LogOutput
  | .console => { out with console := out.console ++ LogSetup.consoleText r }
  | .memory => { out with records := out.records ++ [r] }
  | .file path =>
    let line := LogSetup.fileText stamp r
    if Text.fitsUtf8 line then
      match out.tree.append [] path (Text.utf8Bytes line) with
      | .ok tree => { out with tree := tree }
      | .error _ => out
    else out

/-- Hands a record to every sink that it reaches. Where there is no sink for a logger at all, the
bare message goes to the console. -/
def write (out : LogOutput) (setup : LogSetup) (stamp : String) (r : LogRecord) : LogOutput :=
  if LogSetup.isBelowTop r.logger then
    (setup.receivers r.logger r.level).foldl (fun out sink => out.put stamp r sink) out
  else if setup.isEnabledFor r.logger r.level then
    { out with console := out.console ++ LogSetup.withCause r.message r.cause }
  else out

def writeAll (out : LogOutput) (setup : LogSetup) (stamp : String) (rs : List LogRecord) :
    LogOutput :=
  rs.foldl (fun out r => out.write setup stamp r) out

end LogOutput

end ComponentBuild
