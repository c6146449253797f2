import ComponentBuild.Failure

namespace ComponentBuild

inductive Level
  | debug
  | info
  | warning
  | error
  | critical
  deriving DecidableEq

namespace Level

def number : Level → Nat
  | debug => 10
  | info => 20
  | warning => 30
  | error => 40
  | critical => 50

def text : Level → String
  | debug => "DEBUG"
  | info => "INFO"
  | warning => "WARNING"
  | error => "ERROR"
  | critical => "CRITICAL"

end Level

structure LogRecord where
  level : Level
  logger : String
  message : String
  cause : Option Thrown

def loggerName (part : Option String) : String :=
  match part with
  | none => "scrtask"
  | some s => if s = "" then "scrtask" else s!"scrtask.{s}"

structure TaskLog where
  logger : String
  deriving DecidableEq

namespace TaskLog

def default : TaskLog := ⟨loggerName (some "generator")⟩

def located (message : String) (location : Option String) (line : Int) : String :=
  match location with
  | none => message
  | some file =>
    if file = "" then message
    else if 0 < line then s!"{file} [{line}]: {message}"
    else s!"{file}: {message}"

def debug (log : TaskLog) (message : String) (cause : Option Thrown) : LogRecord :=
  ⟨.debug, log.logger, message, cause⟩

def info (log : TaskLog) (message : String) (cause : Option Thrown) : LogRecord :=
  ⟨.info, log.logger, message, cause⟩

def warn (log : TaskLog) (message : String) (location : Option String) (line : Int)
    (cause : Option Thrown) : LogRecord :=
  ⟨.warning, log.logger, located message location line, cause⟩

def error (log : TaskLog) (message : String) (location : Option String) (line : Int)
    (cause : Option Thrown) : LogRecord :=
  ⟨.error, log.logger, located message location line, cause⟩

end TaskLog

end ComponentBuild
