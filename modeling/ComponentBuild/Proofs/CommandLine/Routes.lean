import ComponentBuild.Proofs.CommandLine.Overlay
import ComponentBuild.Proofs.Settings.Read
import ComponentBuild.Proofs.SourceSet.Collect
import ComponentBuild.Proofs.Step.Described

/-!
Classpaths that are given as one text: parsed, in a settings file, or as an option. The first two
come to the same entries for every text. An option keeps the blanks around a part, so it comes to
these entries only where that makes no difference, as for every text without such blanks.
-/

namespace ComponentBuild

variable {host : Host} {s : String} {cp : Classpath} {qs : List Path}

namespace Settings

theorem pathFrom_of_entered {part : String} {q : Path} (h : host.entered (.ofText part) = .ok q) :
    pathFrom host.home host.workingPath part = .ok q := by
  obtain ⟨r, hr, rfl⟩ := map_eq_ok.1 h
  rw [pathFrom, hr]
  rfl

theorem asPaths_of_entered
    (h : List.Forall₂ (fun p q => host.entered p = .ok q)
      ((Text.parts Classpath.separator s).map Path.ofText) qs) :
    asPaths host.home host.workingPath (.text s) = .ok qs := by
  have hparts : (Text.parts Classpath.separator s).mapM (pathFrom host.home host.workingPath) =
      .ok qs := by
    rw [mapM_eq_ok]
    rw [List.forall₂_map_left_iff] at h
    exact h.imp fun _ _ => pathFrom_of_entered
  have hlist : [s].flatMap (Text.parts ':') = Text.parts Classpath.separator s :=
    List.flatMap_singleton ..
  rw [← hlist] at hparts
  exact hparts

end Settings

namespace CommandLine

/-- No part of a classpath text has blanks around it. -/
def Tight (s : String) : Prop :=
  ∀ part ∈ Text.split Classpath.separator s, Text.isBlankText part = false → Text.trim part = part

theorem classpathPaths_of_tight (h : Tight s) :
    classpathPaths s = (Text.parts Classpath.separator s).map Path.ofText := by
  rw [classpathPaths, Text.parts, List.map_map]
  apply List.map_congr_left
  intro part hpart
  obtain ⟨hmem, hblank⟩ := List.mem_filter.1 hpart
  have htrim := h part hmem (by simpa using hblank)
  rw [Function.comp_apply, htrim]

theorem settings_route {p file : Path} {pairs : List (Value × Value)} {base : Settings}
    (hcp : Classpath.parse host s = .ok cp) (hreads : Settings.Reads host p file pairs)
    (hplace : file.parent = host.workingPath) (hfield : Settings.field pairs "classpath" = .text s)
    (hbase : Settings.ofPairs host.home file.parent (Settings.without "classpath" pairs) = .ok base)
    (houtput : base.outputDirectory = none) :
    ∃ c step, Settings.load host p = .ok c ∧ Step.ofSettings host c none = .ok step ∧
      step.classpath.entries = cp.entries := by
  obtain ⟨qs, hqs, hentries⟩ := Classpath.parse_eq_ok.1 hcp
  have hpaths : Settings.asPaths host.home file.parent (Settings.field pairs "classpath") =
      .ok qs := by
    rw [hplace, hfield]
    exact Settings.asPaths_of_entered hqs
  have hdescribes := (Settings.ofPairs_eq_ok.1 hbase).of_without hpaths
  have hload := (Settings.load_of_reads hreads).2 hdescribes
  let c : Settings := { base with classpath := qs }
  have hnone : c.outputDirectory = none := houtput
  have henters : host.Enters c.classpath cp.entries := Classpath.enters_of_entered hqs hentries
  obtain ⟨step, hstep, he⟩ := (Step.enters_ofSettings hnone).2 henters
  exact ⟨c, step, hload, hstep, he⟩

theorem option_route {a : GenerateArguments} {base c : Settings} {entries : List Path}
    (ha : a.classpath = [.text s]) (hbase : base.classpath = []) (hc : a.overlay base = .ok c)
    (houtput : c.outputDirectory = none) :
    (∃ step, Step.ofSettings host c none = .ok step ∧ step.classpath.entries = entries) ↔
      host.Enters (classpathPaths s) entries := by
  obtain ⟨output, classpath, properties, -, hclasspath, -, hc⟩ :=
    GenerateArguments.overlay_eq_ok.1 hc
  have htext : classpath = [s] := by
    rw [ha] at hclasspath
    cases classpath with
    | nil => simp at hclasspath
    | cons x rest => simpa [eq_comm] using hclasspath
  have hpaths : c.classpath = classpathPaths s := by
    rw [hc, htext]
    simp [hbase]
  rw [← hpaths]
  exact Step.enters_ofSettings houtput

/-- A text comes to the same entries as the value of a settings file in the working directory. As an
option it does so exactly if its parts come to them with the blanks around them. -/
theorem routes_agree_iff (hcp : Classpath.parse host s = .ok cp) :
    (∀ p file pairs base, Settings.Reads host p file pairs → file.parent = host.workingPath →
        Settings.field pairs "classpath" = .text s →
        Settings.ofPairs host.home file.parent (Settings.without "classpath" pairs) = .ok base →
        base.outputDirectory = none →
        ∃ c step, Settings.load host p = .ok c ∧ Step.ofSettings host c none = .ok step ∧
          step.classpath.entries = cp.entries) ∧
      ∀ (a : GenerateArguments) (base c : Settings), a.classpath = [.text s] →
        base.classpath = [] → a.overlay base = .ok c → c.outputDirectory = none →
        ((∃ step, Step.ofSettings host c none = .ok step ∧ step.classpath.entries = cp.entries) ↔
            host.Enters (classpathPaths s) cp.entries) ∧
          (Tight s → ∃ step, Step.ofSettings host c none = .ok step ∧
            step.classpath.entries = cp.entries) := by
  constructor
  · intro p file pairs base hreads hplace hfield hbase houtput
    exact settings_route hcp hreads hplace hfield hbase houtput
  · intro a base c ha hbase hc houtput
    have hiff : (∃ step, Step.ofSettings host c none = .ok step ∧
        step.classpath.entries = cp.entries) ↔ host.Enters (classpathPaths s) cp.entries :=
      option_route ha hbase hc houtput
    refine ⟨hiff, ?_⟩
    intro htight
    rw [hiff, classpathPaths_of_tight htight]
    exact Classpath.parse_eq_ok.1 hcp

section Plain

def listedText : String := "a:~/b::a"

def listedHost : Host where
  tree :=
    { entries := [([Settings.fileName], .file (Text.utf8Bytes ("classpath: " ++ listedText)))]
      distinct := by decide }
  workingDirectory := []
  home := ⟨.ofText "/home", []⟩
  systemPath := []
  prints := fun _ => true

def listedOption : GenerateArguments :=
  { GenerateArguments.empty with classpath := [.text listedText] }

theorem reads_listed :
    Settings.Reads listedHost listedHost.workingPath (.ofText "/.scrtask.yml")
      (Settings.textPairs [("classpath", listedText)]) := by
  refine ⟨?_, ?_, ?_⟩
  · decide +kernel
  · decide +kernel
  · apply Settings.readValue_of_holds
    decide +kernel

theorem tight_listed : Tight listedText := by
  unfold Tight
  decide +kernel

theorem routes_agree_plain :
    ∃ cp c step other, Classpath.parse listedHost listedText = .ok cp ∧
      Settings.load listedHost listedHost.workingPath = .ok c ∧
      Step.ofSettings listedHost c none = .ok step ∧ step.classpath.entries = cp.entries ∧
      (∃ given, listedOption.overlay (.usual listedHost.workingPath) = .ok given ∧
        Step.ofSettings listedHost given none = .ok other) ∧ other.classpath.entries = cp.entries ∧
      cp.entries = [.ofText "/a", .ofText "/home/b"] := by
  have hcp : (Classpath.parse listedHost listedText).toOption.map Classpath.entries =
      some [.ofText "/a", .ofText "/home/b"] := by decide +kernel
  cases hparse : Classpath.parse listedHost listedText with
  | error fault =>
    rw [hparse] at hcp
    cases hcp
  | ok cp =>
    rw [hparse] at hcp
    have hentries : cp.entries = [.ofText "/a", .ofText "/home/b"] := Option.some.inj hcp
    obtain ⟨hsettings, hoption⟩ := routes_agree_iff hparse
    obtain ⟨c, step, hload, hstep, hsame⟩ := hsettings _ _ _ (.usual listedHost.workingPath)
      reads_listed (by decide +kernel) (by rfl) (by rfl) rfl
    obtain ⟨-, htight⟩ := hoption listedOption (.usual listedHost.workingPath) _ rfl rfl rfl rfl
    obtain ⟨other, hother, hsame'⟩ := htight tight_listed
    exact ⟨cp, c, step, other, rfl, hload, hstep, hsame, ⟨_, rfl, hother⟩, hsame', hentries⟩

/-- With blanks around its parts, an option names other paths than the text does. -/
theorem option_keeps_blanks :
    (Classpath.parse SourceSet.plainHost "a : b").toOption.map Classpath.entries =
        some [.ofText "/a", .ofText "/b"] ∧
      ∃ a, parse ["generate", "-cp", "a : b"] = .ok ⟨false, .generate a⟩ ∧
        (a.step SourceSet.plainHost).toOption.map (fun s => s.classpath.entries) =
          some [.ofText "/a ", .ofText "/ b"] := by
  refine ⟨?_, ?_⟩
  · decide +kernel
  · exact ⟨_, rfl, by decide +kernel⟩

end Plain

end CommandLine

end ComponentBuild
