import ComponentBuild.CommandLine.Arguments
import ComponentBuild.Log.Setup
import ComponentBuild.Settings.Load
import ComponentBuild.Step.Run

/-!
The program: a command line is carried out on a host, with what is printed and how the program
ends. Faults of the configuration and failures of the build end it with status 1.
-/

namespace ComponentBuild.CommandLine

/-- Why a result cannot be told: the working directory is no longer there, or standard output has
no encoding for the line. -/
inductive ReportFault
  | noDirectory
  | unprintable (line : String)
  deriving DecidableEq

def ReportFault.message : ReportFault → String
  | noDirectory => "[Errno 2] No such file or directory"
  | unprintable line => s!"{Text.quoted line} cannot be encoded"

/-- A fault that the program does not handle. -/
inductive Crash
  | settings (fault : SettingsFault)
  | given (fault : GivenFault)
  | home (fault : HomeFault)
  | run (fault : RunFault)
  | report (fault : ReportFault)

def Crash.message : Crash → String
  | settings fault => fault.message
  | given fault => fault.message
  | home fault => fault.message
  | run fault => fault.message
  | report fault => fault.message

inductive Ending
  | finished
  | exited (status : Nat)
  | crashed (crash : Crash)

structure Session where
  ending : Ending
  output : String
  errors : String
  tree : Tree
  contexts : ClassContexts
  calls : List Call

inductive Trouble
  | configuration (message : String)
  | build (failure : BuildFailure)
  | crash (crash : Crash)

namespace Trouble

def ofSettings (fault : SettingsFault) : Trouble :=
  if fault.isConfiguration then configuration fault.message else crash (.settings fault)

def ofRun : RunFault → Trouble
  | .configuration fault => configuration fault.message
  | .thrown (.configuration message) => configuration message
  | .thrown (.build message cause location) => build ⟨message, cause, location⟩
  | fault => crash (.run fault)

def ofExecute : ExecuteFault → Trouble
  | .run fault => ofRun fault
  | .build failure => build failure

def ending : Trouble → Ending
  | configuration _ => .exited 1
  | build _ => .exited 1
  | crash c => .crashed c

def text : Trouble → String
  | configuration message => s!"{mainGrammar.program}: {message}\n"
  | build failure => s!"{failure.text}\nRun with --verbose for more details.\n"
  | crash _ => ""

end Trouble

def Stop.ending : Stop → Ending
  | help _ => .exited 0
  | usage _ _ => .exited 2

def Stop.output : Stop → String
  | help text => text
  | usage _ _ => ""

def Stop.errors : Stop → String
  | help _ => ""
  | usage program message => s!"{program}: error: {message}\n"

namespace Session

def quiet (ending : Ending) (host : Host) : Session := ⟨ending, "", "", host.tree, .empty, []⟩

def stopped (host : Host) (s : Stop) : Session :=
  { quiet s.ending host with output := s.output, errors := s.errors }

def troubled (host : Host) (t : Trouble) : Session :=
  { quiet t.ending host with errors := t.text }

def reportFailed (x : Session) (fault : ReportFault) : Session :=
  { x with ending := .crashed (.report fault) }

def print (x : Session) (host : Host) (line : String) : Session :=
  if host.canPrint line then { x with output := x.output ++ line ++ "\n" }
  else x.reportFailed (.unprintable line)

def printAll (x : Session) (host : Host) : List String → Session
  | [] => x
  | line :: rest =>
    if host.canPrint line then (x.print host line).printAll host rest else x.print host line

end Session

def generatorLines (registry : Registry) : List String :=
  match registry.available with
  | [] => ["No descriptor generators installed"]
  | names => names

def shownFrom (host : Host) (p : Path) : String :=
  ((p.relativeTo? host.workingPath).getD p).text

def writtenText (host : Host) (s : Step) : String :=
  match s.descriptorPath? host with
  | some p => s!"Descriptor written to {shownFrom host p}"
  | none => ""

/-- Tells where the descriptor is, which takes the working directory. One that was moved or replaced
since the start counts as gone. -/
def Session.report (x : Session) (host : Host) (s : Step) : Session :=
  if x.tree.node? host.workingDirectory = some .directory then x.print host (writtenText host s)
  else x.reportFailed .noDirectory

namespace GenerateArguments

def settingsPath (a : GenerateArguments) (host : Host) : Path :=
  match a.config.bind Given.nonempty? with
  | some s => .ofText s
  | none => host.workingPath

def settings (a : GenerateArguments) (host : Host) : Except Trouble Settings :=
  match Settings.load host (a.settingsPath host) with
  | .error fault => .error (.ofSettings fault)
  | .ok settings =>
    match a.overlay settings with
    | .error fault => .error (.crash (.given fault))
    | .ok settings => .ok settings

def step (a : GenerateArguments) (host : Host) : Except Trouble Step :=
  match a.settings host with
  | .error t => .error t
  | .ok settings =>
    match Step.ofSettings host settings none with
    | .error fault => .error (.crash (.home fault))
    | .ok s => .ok s

end GenerateArguments

def logged (setup : LogSetup) (r : Run) : Session :=
  let log := (LogOutput.mk "" [] r.tree).writeAll setup "" r.records
  ⟨.finished, "", log.console, log.tree, r.contexts, r.calls⟩

def concluded (host : Host) (setup : LogSetup) (r : Run) : Session :=
  let before := logged setup r
  match r.executed with
  | .ok () => before.report host r.step
  | .error fault =>
    let t := Trouble.ofExecute fault
    { before with ending := t.ending, errors := before.errors ++ t.text }

def generate (host : Host) (registry : Registry) (setup : LogSetup) (a : GenerateArguments) :
    Session :=
  match a.step host with
  | .error t => .troubled host t
  | .ok s => concluded host setup (s.generate host registry .empty)

def Invocation.run (host : Host) (registry : Registry) (i : Invocation) : Session :=
  match i.command with
  | .generators => (Session.quiet .finished host).printAll host (generatorLines registry)
  | .generate a => generate host registry (LogSetup.configure host i.verbose none).1 a

def run (host : Host) (registry : Registry) (arguments : List String) : Session :=
  match parse arguments with
  | .error s => .stopped host s
  | .ok i => i.run host registry

end ComponentBuild.CommandLine
