namespace ComponentBuild

structure SourceLocation where
  file : String
  line : Int
  column : Int
  deriving DecidableEq

def SourceLocation.text (l : SourceLocation) : String :=
  if l.line = 0 then l.file else s!"{l.file}:{l.line}"

def SourceLocation.before (location : Option SourceLocation) (message : String) : String :=
  match location with
  | some l => s!"{l.text}: {message}"
  | none => message

structure Report where
  kind : String
  message : String
  source : Option String
  line : Option Int
  deriving DecidableEq

def Report.isFatal (r : Report) : Bool := r.kind == "fatal"

structure TypeName where
  short : String
  full : String
  deriving DecidableEq

inductive Thrown
  | report (type : TypeName) (report : Report) (cause : Option Thrown)
  | configuration (message : String)
  | build (message : String) (cause : Option Thrown) (location : Option SourceLocation)
  | other (type : TypeName) (text : String)

namespace Thrown

def type : Thrown → TypeName
  | report t _ _ => t
  | configuration _ => ⟨"ConfigurationError", "scrtask.errors.ConfigurationError"⟩
  | build _ _ _ => ⟨"BuildFailure", "scrtask.errors.BuildFailure"⟩
  | other t _ => t

def text : Thrown → String
  | report _ r _ => r.message
  | configuration message => message
  | build message _ location => SourceLocation.before location message
  | other _ s => s

def line (e : Thrown) : String :=
  if e.text = "" then e.type.full ++ "\n" else s!"{e.type.full}: {e.text}\n"

def causeLine : String :=
  "\nThe above exception was the direct cause of the following exception:\n\n"

def lines : Thrown → String
  | report t r (some c) => c.lines ++ causeLine ++ (report t r (some c)).line
  | build message (some c) location =>
    c.lines ++ causeLine ++ (build message (some c) location).line
  | e => e.line

end Thrown

structure Problem where
  message : Option String
  cause : Option Thrown
  source : Option String
  line : Int
  fatal : Bool

inductive Outcome
  | success
  | failure (problem : Problem)

def Outcome.succeeded : Outcome → Bool
  | success => true
  | failure _ => false

structure BuildFailure where
  message : String
  cause : Option Thrown
  location : Option SourceLocation

def BuildFailure.text (f : BuildFailure) : String := SourceLocation.before f.location f.message

def Outcome.ofReport (r : Report) (cause : Option Thrown) : Outcome :=
  if r.isFatal then .failure ⟨some r.message, cause, none, 0, true⟩
  else .failure ⟨some r.message, cause, r.source, r.line.getD 0, false⟩

def Problem.location (p : Problem) : Option SourceLocation :=
  if p.fatal then none else p.source.map fun file => ⟨file, p.line, 0⟩

def fallbackMessage : String := "Descriptor generation failed"

def Problem.shownMessage (p : Problem) : String :=
  match p.message with
  | none => fallbackMessage
  | some s => if s = "" then fallbackMessage else s

def BuildFailure.ofOutcome : Outcome → BuildFailure
  | .success => ⟨fallbackMessage, none, none⟩
  | .failure p => ⟨p.shownMessage, p.cause, p.location⟩

end ComponentBuild
