import ComponentBuild.Proofs.Classpath.Entries
import ComponentBuild.Step.Basic

namespace ComponentBuild.Step

variable {s : Step} {host : Host} {c : Settings} {g : Option Generator} {ps : List Path}

def described (c : Settings) (g : Option Generator) (cp : Classpath) : Step :=
  { sources := ⟨c.sourceDirectory, c.includes, c.excludes, c.defaultExcludes⟩
    classpath := cp
    outputDirectory := c.outputDirectory
    descriptor := c.descriptor
    metadata := c.metadata
    generateAccessors := .bool c.generateAccessors
    strictMode := .bool c.strictMode
    specVersion := c.specVersion
    annotationProcessors := c.annotationProcessors
    properties := c.properties.map fun p => (p.1, .text p.2)
    reference := c.generator
    generator := g
    log := .default }

theorem withClasspath_eq (s : Step) (host : Host) (ps : List Path) :
    s.withClasspath host ps =
      match Classpath.addPaths host s.classpath ps with
      | (cp, none) => .ok { s with classpath := cp }
      | (_, some fault) => .error fault := by
  induction ps generalizing s with
  | nil => rfl
  | cons p ps ih =>
    simp only [withClasspath, addClasspath, Classpath.add, ClasspathItem.paths, Classpath.addPaths]
    cases s.classpath.addPath host p with
    | error fault => rfl
    | ok cp => exact ih _

theorem setOutputDirectory_eq_ok {d : Option Path} {s' : Step} :
    s.setOutputDirectory host d = (s', none) ↔
      ∃ cp, Classpath.addPaths host s.classpath d.toList = (cp, none) ∧
        s' = { s with outputDirectory := d, classpath := cp } := by
  cases d with
  | none => simp [setOutputDirectory, Classpath.addPaths, eq_comm]
  | some p =>
    simp only [setOutputDirectory, addClasspath, Classpath.add, ClasspathItem.paths,
      Option.toList_some]
    rcases Classpath.addPaths host s.classpath [p] with ⟨cp, fault⟩
    simp only [Prod.mk.injEq]
    constructor
    · rintro ⟨rfl, rfl⟩
      exact ⟨cp, ⟨rfl, rfl⟩, rfl⟩
    · rintro ⟨_, ⟨rfl, rfl⟩, rfl⟩
      exact ⟨rfl, rfl⟩

theorem ofSettings_eq (host : Host) (c : Settings) (g : Option Generator) :
    ofSettings host c g =
      match Classpath.addPaths host .empty (c.classpath ++ c.outputDirectory.toList) with
      | (cp, none) => .ok (described c g cp)
      | (_, some fault) => .error fault := by
  rw [ofSettings, withClasspath_eq, Classpath.addPaths_append]
  have hempty : (make g c.generator).classpath = .empty := rfl
  simp only [hempty]
  rcases Classpath.addPaths host .empty c.classpath with ⟨cp, _ | fault⟩
  · cases ho : c.outputDirectory with
    | none =>
      simp only [described, ho]
      rfl
    | some output =>
      dsimp only [bind, Except.bind, setOutputDirectory, addClasspath, Classpath.add,
        ClasspathItem.paths, Option.toList_some]
      rcases Classpath.addPaths host cp [output] with ⟨cp', _ | fault⟩
      · simp only [described, ho]
        rfl
      · rfl
  · rfl

theorem ofSettings_eq_ok :
    ofSettings host c g = .ok s ↔
      ∃ cp, Classpath.addPaths host .empty (c.classpath ++ c.outputDirectory.toList) = (cp, none) ∧
        s = described c g cp := by
  rw [ofSettings_eq]
  rcases Classpath.addPaths host .empty (c.classpath ++ c.outputDirectory.toList) with
    ⟨cp, _ | fault⟩
  · simp [eq_comm]
  · simp

theorem enters_ofSettings {entries : List Path} (h : c.outputDirectory = none) :
    (∃ s, ofSettings host c g = .ok s ∧ s.classpath.entries = entries) ↔
      host.Enters c.classpath entries := by
  simp only [ofSettings_eq_ok, Classpath.enters_iff, h, Option.toList_none, List.append_nil]
  constructor
  · rintro ⟨s, ⟨cp, hadd, rfl⟩, hentries⟩
    exact ⟨cp, hadd, hentries⟩
  · rintro ⟨cp, hadd, hentries⟩
    exact ⟨_, ⟨cp, hadd, rfl⟩, hentries⟩

end ComponentBuild.Step
