import ComponentBuild.Proofs.Settings.Legible
import ComponentBuild.Proofs.Step.Alike
import ComponentBuild.Proofs.Step.Called
import ComponentBuild.Proofs.Step.Described

namespace ComponentBuild

inductive Directory
  | source
  | output

namespace Directory

def key : Directory → String
  | source => "srcdir"
  | output => "destdir"

def set (d : Directory) (p : Option Path) (c : Settings) : Settings :=
  match d with
  | source => { c with sourceDirectory := p }
  | output => { c with outputDirectory := p }

def inStep (d : Directory) (s : Step) : Option Path :=
  match d with
  | source => s.sources.directory
  | output => s.outputDirectory

end Directory

variable {host there : Host} {d : Directory} {s : Step} {t : String}

namespace Settings

variable {home : Home} {root p file : Path} {pairs : List (Value × Value)} {q : Option Path}

theorem asPath?_text (home : Home) (root : Path) (t : String) :
    asPath? home root (.text t) =
      if t = "" then .ok none else (pathFrom home root t).map some := rfl

theorem ofPairs_directory (d : Directory) (h : asPath? home root (field pairs d.key) = .ok q) :
    ofPairs home root pairs = d.set q <$> ofPairs home root (without d.key pairs) := by
  have hnull : asPath? home root .null = .ok none := rfl
  -- Whatever else is read before the directory fails or gives the same on both sides.
  cases d
  all_goals
    rw [Directory.key] at h
    simp (disch := decide) only [ofPairs, Directory.key, field_without, field_without_self, hnull,
      map_bind]
    rw [h]
    rfl

theorem ofPairs_of_asPath?_error (d : Directory) {fault : FieldFault}
    (h : asPath? home root (field pairs d.key) = .error fault) :
    ∃ other, ofPairs home root pairs = .error other := by
  cases hp : ofPairs home root pairs with
  | error other => exact ⟨other, rfl⟩
  | ok c =>
    have hdescribes := ofPairs_eq_ok.1 hp
    cases d with
    | source =>
      rw [Directory.key, hdescribes.sourceDirectory] at h
      cases h
    | output =>
      rw [Directory.key, hdescribes.outputDirectory] at h
      cases h

theorem pathFrom_of_knows (h : host.home.Knows (.ofText t)) :
    ∃ q, pathFrom host.home host.workingPath t = .ok q ∧
      host.settled q = host.settled (.ofText t) ∧ host.entered q = host.entered (.ofText t) := by
  obtain ⟨p, hp⟩ := Home.knows_iff.1 h
  have habs := host.absolute_isAbsolute p
  have hknown : (Path.ofText t).expandKnownHome host.home = .ok p := by
    rw [Path.expandKnownHome, hp]
  have hself : (host.absolute p).expandKnownHome host.home = .ok (host.absolute p) := by
    rw [Path.expandKnownHome,
      Path.expandHome_of_homeUser?_eq_none _ (Path.homeUser?_absolute habs)]
  refine ⟨host.absolute p, ?_, ?_, ?_⟩
  · rw [pathFrom, hp]
    rfl
  · rw [Host.settled, Host.settled, hknown, hself]
    simp only [Except.map, Host.absolute_absolute]
  · rw [Host.entered_of_isAbsolute habs, Host.entered, hp]
    rfl

end Settings

theorem Host.SameNames.entered (h : host.SameNames there) : host.entered = there.entered := by
  have hb := congrArg Host.entered h.blanked
  exact hb

namespace Classpath

theorem addPath_congr {p p' : Path} (h : host.entered p = there.entered p') (cp : Classpath) :
    cp.addPath host p = cp.addPath there p' := by
  cases hp : cp.addPath host p with
  | ok next =>
    obtain ⟨q, hq, rfl⟩ := addPath_eq_ok.1 hp
    exact (addPath_eq_ok.2 ⟨q, h ▸ hq, rfl⟩).symm
  | error fault => exact (addPath_eq_error.2 (h ▸ addPath_eq_error.1 hp)).symm

theorem addPaths_congr {ps ps' : List Path}
    (h : List.Forall₂ (fun p p' => host.entered p = there.entered p') ps ps') (cp : Classpath) :
    addPaths host cp ps = addPaths there cp ps' := by
  induction h generalizing cp with
  | nil => rfl
  | @cons p p' ps ps' hp _ ih =>
    rw [addPaths, addPaths, addPath_congr hp]
    cases cp.addPath there p' with
    | ok next => exact ih next
    | error fault => rfl

end Classpath

namespace SourceSet

theorem collect_directory {s : SourceSet} {p : Option Path}
    (h : s.root host = { s with directory := p }.root host) :
    s.collect host = { s with directory := p }.collect host := by
  rw [collect, collect, located, located, h]
  rfl

theorem root_of_settled {s s' : SourceSet} {p p' : Path} (hs : s.directory = some p)
    (hs' : s'.directory = some p') (h : host.settled p = host.settled p') :
    s.root host = s'.root host := by
  simp only [root, hs, hs', h]

end SourceSet

namespace Step

theorem described_alike (d : Directory) (c : Settings) (cp : Classpath)
    (hnames : host.SameNames there) {p p' : Path} (h : host.settled p = host.settled p') :
    (described (d.set (some p) c) none cp).Alike (described (d.set (some p') c) none cp) host
      there := by
  have hroot : (described (d.set (some p) c) none cp).sources.root host =
      (described (d.set (some p') c) none cp).sources.root host := by
    cases d with
    | source => exact SourceSet.root_of_settled rfl rfl h
    | output => rfl
  have hfiles : (described (d.set (some p) c) none cp).sources.collect host =
      (described (d.set (some p') c) none cp).sources.collect host := by
    cases d with
    | source => exact SourceSet.collect_directory hroot
    | output => rfl
  have houtput : (described (d.set (some p) c) none cp).outputDirectory.map host.settled =
      (described (d.set (some p') c) none cp).outputDirectory.map host.settled := by
    cases d with
    | source => rfl
    | output => exact congrArg some h
  constructor
  case root => rw [hroot, hnames.root]
  case files => rw [hfiles, hnames.collect]
  case output => rw [houtput, hnames.settled]
  case dependencies => cases d <;> exact hnames.dependencies _
  case locations =>
    rw [hnames.exists?_eq]
    cases d <;> rfl
  case system => exact hnames.systemPath
  all_goals cases d <;> rfl

theorem ofSettings_alike (d : Directory) (c : Settings) (hnames : host.SameNames there) {p p' : Path}
    (h : host.settled p = host.settled p') (he : host.entered p = host.entered p') :
    (∃ fault, ofSettings host (d.set (some p) c) none = .error fault ∧
        ofSettings there (d.set (some p') c) none = .error fault) ∨
      ∃ s s', ofSettings host (d.set (some p) c) none = .ok s ∧
        ofSettings there (d.set (some p') c) none = .ok s' ∧ s.Alike s' host there := by
  have hsame (ps : List Path) :
      List.Forall₂ (fun p p' => host.entered p = there.entered p') ps ps := by
    rw [List.forall₂_same]
    intro p _
    rw [hnames.entered]
  have hpaths : Classpath.addPaths host .empty
        ((d.set (some p) c).classpath ++ (d.set (some p) c).outputDirectory.toList) =
      Classpath.addPaths there .empty
        ((d.set (some p') c).classpath ++ (d.set (some p') c).outputDirectory.toList) := by
    apply Classpath.addPaths_congr
    cases d with
    | source => exact hsame _
    | output =>
      apply List.rel_append (hsame c.classpath)
      refine .cons ?_ .nil
      rw [← hnames.entered, he]
  rw [ofSettings_eq, ofSettings_eq, ← hpaths]
  rcases Classpath.addPaths host .empty
      ((d.set (some p) c).classpath ++ (d.set (some p) c).outputDirectory.toList) with
    ⟨cp, _ | fault⟩
  · exact .inr ⟨_, _, rfl, rfl, described_alike d c cp hnames h⟩
  · exact .inl ⟨fault, rfl, rfl⟩

theorem calls_of_unset (h : d.inStep s = none) (registry : Registry) (contexts : ClassContexts) :
    (s.generate host registry contexts).calls = [] := by
  rw [List.eq_nil_iff_forall_not_mem]
  intro call hcall
  obtain ⟨g, -, hcalled⟩ := called_of_mem hcall
  cases d with
  | output =>
    obtain ⟨output, ho, -⟩ := hcalled.described.output
    rw [Directory.inStep, ho] at h
    cases h
  | source =>
    have hroot : s.sources.root host = .error (.source .unset) := by
      rw [SourceSet.root, show s.sources.directory = none from h]
    have hfiles := hcalled.described.sources
    rw [SourceSet.collect, SourceSet.located, hroot] at hfiles
    cases hfiles

end Step

end ComponentBuild
