import ComponentBuild.Generator.Project
import ComponentBuild.SourceSet.Listing
import ComponentBuild.Step.Basic

namespace ComponentBuild

inductive ConfigurationFault
  | sources (fault : SourceFault)
  | outputUnset
  | options (fault : OptionsFault)
  | generator (fault : GeneratorFault)
  deriving DecidableEq

def ConfigurationFault.message : ConfigurationFault → String
  | sources fault => fault.message
  | outputUnset => ProjectFault.outputUnset.message
  | options fault => fault.message
  | generator fault => fault.message

inductive RunFault
  | configuration (fault : ConfigurationFault)
  | relativeImport (fault : ImportFault)
  | className (fault : ClassNameFault)
  | pattern (fault : GivenFault)
  | home (fault : HomeFault)
  | file (error : FileError)
  | thrown (e : Thrown)

def RunFault.message : RunFault → String
  | configuration fault => fault.message
  | relativeImport fault => fault.message
  | className fault => fault.message
  | pattern fault => fault.message
  | home fault => fault.message
  | file error => error.message
  | thrown e => e.text

def RunFault.ofRoot : RootFault → RunFault
  | .source fault => .configuration (.sources fault)
  | .home fault => .home fault
  | .file error => .file error

def RunFault.ofCollect : CollectFault → RunFault
  | .root fault => .ofRoot fault
  | .pattern fault => .pattern fault
  | .className fault => .className fault

def RunFault.ofLoad : LoadFault → RunFault
  | .configuration fault => .configuration (.generator fault)
  | .relativeImport fault => .relativeImport fault
  | .thrown e => .thrown e

def RunFault.ofProject : ProjectFault → RunFault
  | .outputUnset => .configuration .outputUnset
  | .home fault => .home fault

structure Call where
  generator : String
  request : Request
  locations : List Path
  searchPath : List Path

structure Run where
  step : Step
  tree : Tree
  contexts : ClassContexts
  records : List LogRecord
  calls : List Call
  result : Except RunFault Outcome

namespace Step

def logger : TaskLog := ⟨loggerName (some "task")⟩

def classpathLogger : TaskLog := ⟨loggerName (some "classpath")⟩

def configurationRecords (s : Step) : List LogRecord :=
  s.configurationLines.map fun line => logger.debug line none

def loaderRecord (cp : Classpath) : LogRecord :=
  classpathLogger.debug s!"Using classes from: {cp.text}" none

def stopped (s : Step) (host : Host) (contexts : ClassContexts) (records : List LogRecord)
    (fault : RunFault) : Run :=
  ⟨s, host.tree, contexts, records, [], .error fault⟩

def conclude (s : Step) (request : Request) (thrown : Option Thrown) :
    List LogRecord × Except RunFault Outcome :=
  match thrown with
  | some (.report _ r cause) =>
    ([logger.debug s!"Generator reported {r.kind} error: {r.message}" none],
      .ok (.ofReport r cause))
  | some e => ([], .error (.thrown e))
  | none =>
    ([logger.info s!"Generated {s.descriptor} in {request.outputDirectory.text}" none],
      .ok .success)

def callGenerator (s : Step) (g : Generator) (host : Host) (contexts : ClassContexts) (loader : Nat)
    (records : List LogRecord) (request : Request) : Run :=
  let response := g.behaviour request contexts host
  let (last, result) := s.conclude request response.thrown
  let locations := ((contexts.get? loader).map ClassContext.locations).getD []
  let searchPath := match contexts.searchPath loader with
    | .ok paths => paths
    | .error _ => []
  { step := s
    tree := response.tree
    contexts := contexts.close loader
    records := records ++ response.records ++ last
    calls := [⟨g.typeName, request, locations, searchPath⟩]
    result := result }

def project (s : Step) (host : Host) (loader : Nat) (dependencies : List Path) (output : Path) :
    List LogRecord × Except RunFault Project :=
  match s.sources.collect host with
  | .error fault => ([], .error (.ofCollect fault))
  | .ok files =>
    ([logger.debug s!"Collected {files.length} source files" none],
      match Project.make host dependencies files (some output.text) loader with
      | .error fault => .error (.ofProject fault)
      | .ok project => .ok project)

def runLoaded (s : Step) (host : Host) (contexts : ClassContexts) (loader : Nat)
    (records : List LogRecord) (dependencies : List Path) (options : GenerationOptions)
    (output : Path) (g : Generator) : Run :=
  match s.project host loader dependencies output with
  | (more, .error fault) => s.stopped host (contexts.close loader) (records ++ more) fault
  | (more, .ok project) =>
    s.callGenerator g host contexts loader (records ++ more)
      { project := project
        options := options
        outputDirectory := project.classesDirectory
        descriptor := s.descriptor
        metadata := s.metadata }

def runChecked (s : Step) (host : Host) (contexts : ClassContexts) (options : GenerationOptions)
    (output : Path) (g : Generator) : Run :=
  match Classpath.dependencies host s.classpath.entries with
  | .error e => s.stopped host contexts s.configurationRecords (.file e)
  | .ok dependencies =>
    let resolved := logger.debug s!"Resolved {dependencies.length} dependencies" none
    let records := s.configurationRecords ++ [resolved, loaderRecord s.classpath]
    let (contexts, system) := contexts.makeSystem host
    match contexts.makeLoader host s.classpath (some system) with
    | .error e => s.stopped host contexts records (.file e)
    | .ok (contexts, loader) =>
      s.runLoaded host contexts loader records dependencies options output g

def findGenerator (s : Step) (registry : Registry) : Except LoadFault Generator :=
  match s.generator with
  | some g => .ok g
  | none => (registry.load s.reference (some s.log)).map Loaded.generator

/-- Runs the generator once; of several faults of the configuration the first is reported. -/
def generate (s : Step) (host : Host) (registry : Registry) (contexts : ClassContexts) : Run :=
  match s.sources.root host with
  | .error fault => s.stopped host contexts [] (.ofRoot fault)
  | .ok _ =>
    let stop := s.stopped host contexts s.configurationRecords
    match s.outputDirectory with
    | none => stop (.configuration .outputUnset)
    | some output =>
      match GenerationOptions.assemble s.rawOptions with
      | .error fault => stop (.configuration (.options fault))
      | .ok options =>
        match s.findGenerator registry with
        | .error fault => stop (.ofLoad fault)
        | .ok g => { s with generator := some g }.runChecked host contexts options output g

end Step

inductive ExecuteFault
  | run (fault : RunFault)
  | build (failure : BuildFailure)

def Run.executed (r : Run) : Except ExecuteFault Unit :=
  match r.result with
  | .error fault => .error (.run fault)
  | .ok .success => .ok ()
  | .ok (.failure p) => .error (.build (.ofOutcome (.failure p)))

end ComponentBuild
