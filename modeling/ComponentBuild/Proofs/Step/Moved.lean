import ComponentBuild.Proofs.Settings.Moved
import ComponentBuild.Proofs.Step.Alike
import ComponentBuild.Proofs.Step.Described

namespace ComponentBuild

variable {host : Host} {w : Location} {p d : Path}

namespace Host

theorem absolute_of_isAbsolute (host : Host) (h : p.isAbsolute = true) : host.absolute p = p :=
  Path.join_absolute h

theorem settled_movedTo (h : d.isAbsolute = true) : (host.movedTo w).settled d = host.settled d := by
  have hhome (home : Home) : d.expandKnownHome home = .ok d := by
    rw [Path.expandKnownHome, Path.expandHome_of_isAbsolute h]
  simp only [settled, hhome, Except.map, absolute_of_isAbsolute _ h]

end Host

namespace SourceSet

variable {s : SourceSet}

variable (host w) in
theorem root_movedTo (h : ∀ d, s.directory = some d → d.isAbsolute = true) :
    s.root (host.movedTo w) = s.root host := by
  unfold root
  cases hd : s.directory with
  | none => rfl
  | some d =>
    simp only [Host.settled_movedTo (h d hd)]
    cases hr : host.settled d with
    | error fault => rfl
    | ok root =>
      have habs := Host.settled_isAbsolute hr
      simp only [checkedRoot, Host.exists?_movedTo habs, Host.isDirectory_movedTo habs]

theorem collect_movedTo (h : ∀ d, s.directory = some d → d.isAbsolute = true) :
    s.collect (host.movedTo w) = s.collect host := by
  rw [collect, collect, located, located, root_movedTo host w h]
  rfl

end SourceSet

namespace Classpath

theorem dependencies_movedTo (cp : Classpath) :
    dependencies (host.movedTo w) cp.entries = dependencies host cp.entries := by
  apply filterM_congr
  intro p hp
  exact Host.isFile_movedTo (cp.absolute p hp)

theorem locations_movedTo (cp : Classpath) :
    cp.entries.filterM (host.movedTo w).exists? = cp.entries.filterM host.exists? := by
  apply filterM_congr
  intro p hp
  exact Host.exists?_movedTo (cp.absolute p hp)

end Classpath

theorem ClassContexts.makeLoader_movedTo (cs : ClassContexts) (cp : Classpath)
    (parent : Option Nat) :
    cs.makeLoader (host.movedTo w) cp parent = cs.makeLoader host cp parent := by
  rw [makeLoader, makeLoader, cp.locations_movedTo]

namespace Generator

def seenFrom (g : Generator) (w : Location) : Generator :=
  ⟨g.typeName, fun request contexts host => g.behaviour request contexts (host.movedTo w)⟩

def Placeless (g : Generator) : Prop :=
  ∀ request contexts host w,
    g.behaviour request contexts (host.movedTo w) = g.behaviour request contexts host

theorem Placeless.seenFrom_eq {g : Generator} (h : g.Placeless) (w : Location) :
    g.seenFrom w = g := by
  have hbehaviour : (fun request contexts (host : Host) =>
      g.behaviour request contexts (host.movedTo w)) = g.behaviour := by
    funext request contexts host
    exact h request contexts host w
  rw [seenFrom, hbehaviour]

end Generator

namespace Step

variable {s : Step} {registry : Registry} {contexts : ClassContexts} {g : Generator}

structure Anchored (s : Step) : Prop where
  sources : ∀ d, s.sources.directory = some d → d.isAbsolute = true
  output : ∀ d, s.outputDirectory = some d → d.isAbsolute = true

theorem Anchored.alike_movedTo (h : s.Anchored) : s.Alike s (host.movedTo w) host where
  root := SourceSet.root_movedTo host w h.sources
  files := SourceSet.collect_movedTo h.sources
  output := by
    cases ho : s.outputDirectory with
    | none => rfl
    | some d => simp only [Option.map_some, Host.settled_movedTo (h.output d ho)]
  dependencies := s.classpath.dependencies_movedTo
  locations := s.classpath.locations_movedTo
  system := rfl
  options := rfl
  generator := rfl
  reference := rfl
  log := rfl
  descriptor := rfl
  metadata := rfl

theorem calls_generate_movedTo (h : s.Anchored) (registry : Registry) :
    (s.generate (host.movedTo w) registry contexts).calls =
      (s.generate host registry contexts).calls :=
  (h.alike_movedTo.generate registry contexts).calls

theorem project_movedTo (h : s.Anchored) {output : Path} (ho : output.isAbsolute = true)
    (loader : Nat) (dependencies : List Path) :
    s.project (host.movedTo w) loader dependencies output =
      s.project host loader dependencies output := by
  simp only [project, SourceSet.collect_movedTo h.sources, Project.make_text,
    Host.settled_movedTo ho]

theorem runLoaded_movedTo (h : s.Anchored) {output : Path} (ho : output.isAbsolute = true)
    {loader : Nat} {records : List LogRecord} {dependencies : List Path}
    {options : GenerationOptions} :
    s.runLoaded (host.movedTo w) contexts loader records dependencies options output g =
      s.runLoaded host contexts loader records dependencies options output (g.seenFrom w) := by
  rw [runLoaded, runLoaded, project_movedTo h ho]
  rfl

theorem runChecked_movedTo (h : s.Anchored) {output : Path} (ho : output.isAbsolute = true)
    {options : GenerationOptions} :
    s.runChecked (host.movedTo w) contexts options output g =
      s.runChecked host contexts options output (g.seenFrom w) := by
  rw [runChecked, runChecked, Classpath.dependencies_movedTo]
  cases Classpath.dependencies host s.classpath.entries with
  | error e => rfl
  | ok dependencies =>
    have hsystem : contexts.makeSystem (host.movedTo w) = contexts.makeSystem host := rfl
    simp only [hsystem, ClassContexts.makeLoader_movedTo, runLoaded_movedTo h ho]
    rfl

variable (host w contexts) in
theorem generate_movedTo (h : s.Anchored) (registry : Registry) :
    s.generate (host.movedTo w) registry contexts = s.generate host registry contexts ∨
      ∃ options output g, s.findGenerator registry = .ok g ∧
        s.generate host registry contexts =
          { s with generator := some g }.runChecked host contexts options output g ∧
        s.generate (host.movedTo w) registry contexts =
          { s with generator := some g }.runChecked host contexts options output (g.seenFrom w) := by
  have hmoved := SourceSet.root_movedTo host w h.sources
  cases hroot : s.sources.root host with
  | error fault =>
    left
    simp only [generate, hmoved, hroot]
    rfl
  | ok root =>
    cases ho : s.outputDirectory with
    | none =>
      left
      simp only [generate, hmoved, hroot, ho]
      rfl
    | some output =>
      cases ha : GenerationOptions.assemble s.rawOptions with
      | error fault =>
        left
        simp only [generate, hmoved, hroot, ho, ha]
        rfl
      | ok options =>
        cases hg : s.findGenerator registry with
        | error fault =>
          left
          simp only [generate, hmoved, hroot, ho, ha, hg]
          rfl
        | ok g =>
          have hloaded : Anchored { s with generator := some g } := ⟨h.sources, h.output⟩
          right
          refine ⟨options, output, g, rfl, ?_, ?_⟩
          · simp only [generate, hroot, ho, ha, hg]
          · simp only [generate, hmoved, hroot, ho, ha, hg]
            rw [← ho]
            exact runChecked_movedTo hloaded (h.output output ho)

theorem generate_movedTo_of_placeless (h : s.Anchored)
    (hg : ∀ g, s.findGenerator registry = .ok g → g.Placeless) :
    s.generate (host.movedTo w) registry contexts = s.generate host registry contexts := by
  rcases generate_movedTo host w contexts h registry with
    hsame | ⟨options, output, g, hfound, hrun, hmoved⟩
  · exact hsame
  · rw [hmoved, hrun, (hg g hfound).seenFrom_eq]

theorem addClasspath_movedTo (host : Host) (w : Location) (s : Step) (h : p.isAbsolute = true) :
    s.addClasspath (host.movedTo w) (.path p) = s.addClasspath host (.path p) := by
  have hadd (cp : Classpath) : cp.addPath (host.movedTo w) p = cp.addPath host p := by
    simp only [Classpath.addPath, Path.expandHome_of_isAbsolute h, Except.map,
      Host.absolute_of_isAbsolute _ h]
  simp only [addClasspath, Classpath.add, ClasspathItem.paths, Classpath.addPaths, hadd]

theorem withClasspath_movedTo {ps : List Path} (h : ∀ p ∈ ps, p.isAbsolute = true) (s : Step) :
    s.withClasspath (host.movedTo w) ps = s.withClasspath host ps := by
  induction ps generalizing s with
  | nil => rfl
  | cons p ps ih =>
    obtain ⟨hp, hps⟩ := List.forall_mem_cons.1 h
    simp only [withClasspath, addClasspath_movedTo host w s hp, ih hps]

theorem ofSettings_movedTo {c : Settings} (h : c.Anchored) (found : Option Generator) :
    ofSettings (host.movedTo w) c found = ofSettings host c found := by
  have houtput (s : Step) : s.setOutputDirectory (host.movedTo w) c.outputDirectory =
      s.setOutputDirectory host c.outputDirectory := by
    cases hd : c.outputDirectory with
    | none => rfl
    | some d => exact addClasspath_movedTo host w _ (h.outputDirectory d hd)
  simp only [ofSettings, withClasspath_movedTo h.classpath, houtput]

theorem anchored_ofSettings {c : Settings} (h : c.Anchored) {found : Option Generator}
    (hs : ofSettings host c found = .ok s) : s.Anchored := by
  obtain ⟨cp, -, rfl⟩ := ofSettings_eq_ok.1 hs
  exact ⟨h.sourceDirectory, h.outputDirectory⟩

end Step

end ComponentBuild
