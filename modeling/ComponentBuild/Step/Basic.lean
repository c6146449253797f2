import ComponentBuild.Generator.Registry
import ComponentBuild.Settings.Basic
import ComponentBuild.SourceSet.Basic

namespace ComponentBuild

structure Step where
  sources : SourceSet
  classpath : Classpath
  outputDirectory : Option Path
  descriptor : String
  metadata : String
  generateAccessors : Value
  strictMode : Value
  specVersion : Option Given
  annotationProcessors : List Given
  properties : List (String × Value)
  reference : Option String
  generator : Option Generator
  log : TaskLog

namespace Step

def make (generator : Option Generator) (reference : Option String) : Step :=
  { sources := .empty
    classpath := .empty
    outputDirectory := none
    descriptor := Settings.usualDescriptor
    metadata := Settings.usualMetadata
    generateAccessors := .bool true
    strictMode := .bool false
    specVersion := none
    annotationProcessors := []
    properties := []
    reference := reference
    generator := generator
    log := .default }

def addClasspath (s : Step) (host : Host) (item : ClasspathItem) : Step × Option HomeFault :=
  let (cp, fault) := s.classpath.add host item
  ({ s with classpath := cp }, fault)

/-- Sets the output directory and adds it to the classpath, in this order. -/
def setOutputDirectory (s : Step) (host : Host) (d : Option Path) : Step × Option HomeFault :=
  let s := { s with outputDirectory := d }
  match d with
  | none => (s, none)
  | some p => s.addClasspath host (.path p)

def setSourceDirectory (s : Step) (d : Option Path) : Step :=
  { s with sources := { s.sources with directory := d } }

def withClasspath (s : Step) (host : Host) : List Path → Except HomeFault Step
  | [] => .ok s
  | p :: ps =>
    match s.addClasspath host (.path p) with
    | (s', none) => s'.withClasspath host ps
    | (_, some fault) => .error fault

def ofSettings (host : Host) (c : Settings) (generator : Option Generator) :
    Except HomeFault Step := do
  let s := make generator c.generator
  let sources : SourceSet := ⟨c.sourceDirectory, c.includes, c.excludes, c.defaultExcludes⟩
  let s ← { s with sources := sources }.withClasspath host c.classpath
  let s ← match s.setOutputDirectory host c.outputDirectory with
    | (s, none) => pure s
    | (_, some fault) => throw fault
  return { s with
    descriptor := c.descriptor
    metadata := c.metadata
    generateAccessors := .bool c.generateAccessors
    strictMode := .bool c.strictMode
    specVersion := c.specVersion
    annotationProcessors := c.annotationProcessors
    properties := c.properties.map fun p => (p.1, .text p.2) }

def rawOptions (s : Step) : RawOptions :=
  { specVersion := s.specVersion
    strictMode := s.strictMode
    generateAccessors := s.generateAccessors
    annotationProcessors := s.annotationProcessors
    properties := s.properties }

def descriptorPath? (s : Step) (host : Host) : Option Path :=
  s.outputDirectory.map fun d => (host.absolute d).normalized.join (.ofText s.descriptor)

def shownText (s : Option String) : String := s.getD "None"

def configurationLines (s : Step) : List String :=
  ["Descriptor task configuration",
    s!"  sources: {s.sources.text}",
    s!"  destdir: {shownText (s.outputDirectory.map Path.text)}",
    s!"  classpath: {s.classpath.text}",
    s!"  final_name: {s.descriptor}",
    s!"  metatype_name: {s.metadata}",
    s!"  generate_accessors: {s.generateAccessors.display}",
    s!"  strict_mode: {s.strictMode.display}",
    s!"  spec_version: {shownText (s.specVersion.map Given.display)}",
    s!"  annotation_processors: {Given.shownList s.annotationProcessors}"]

end Step

end ComponentBuild
