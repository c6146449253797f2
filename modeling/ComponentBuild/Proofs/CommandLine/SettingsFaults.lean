import ComponentBuild.Proofs.CommandLine.Session
import ComponentBuild.Proofs.Settings.Faults

namespace ComponentBuild.CommandLine

open Settings (Loadable Settled load)

variable {host : Host} {registry : Registry} {setup : LogSetup} {a : GenerateArguments}
  {fault : SettingsFault}

theorem generate_of_load_error (h : load host (a.settingsPath host) = .error fault) :
    generate host registry setup a = .troubled host (.ofSettings fault) := by
  have hstep : a.step host = .error (.ofSettings fault) := by
    rw [GenerateArguments.step, GenerateArguments.settings, h]
  rw [generate, hstep]

theorem run_of_load_error {arguments : List String} {verbose : Bool}
    (hparse : parse arguments = .ok ⟨verbose, .generate a⟩)
    (h : load host (a.settingsPath host) = .error fault) :
    run host registry arguments = .troubled host (.ofSettings fault) := by
  rw [run_of_parse hparse, generate_of_load_error h]

/-- Settings are loaded, or the configuration is at fault and the status is 1, exactly for the paths
that can be loaded; with any other path the program breaks off. -/
theorem exits_iff_loadable (host : Host) (registry : Registry) :
    (∀ p, Settled (load host p) ↔ ∃ file, Loadable host p file) ∧
      ∀ arguments verbose a fault, parse arguments = .ok ⟨verbose, .generate a⟩ →
        load host (a.settingsPath host) = .error fault →
        (run host registry arguments).calls = [] ∧
          (run host registry arguments).tree = host.tree ∧
          (run host registry arguments).output = "" ∧
          ((∃ file, Loadable host (a.settingsPath host) file) →
            (run host registry arguments).ending = .exited 1 ∧
              (run host registry arguments).errors = s!"scrtask: {fault.message}\n") ∧
          ((¬ ∃ file, Loadable host (a.settingsPath host) file) →
            (run host registry arguments).ending = .crashed (.settings fault)) := by
  refine ⟨fun p => Settings.load_settled_iff, ?_⟩
  intro arguments verbose a fault hparse hload
  have hsettled : fault.isConfiguration = true ↔
      ∃ file, Loadable host (a.settingsPath host) file := by
    rw [← Settings.load_settled_iff, hload, Settings.settled_error]
  rw [run_of_load_error hparse hload, ← hsettled]
  refine ⟨rfl, rfl, rfl, ?_, ?_⟩
  · intro hfault
    rw [Trouble.ofSettings, if_pos hfault]
    exact ⟨rfl, rfl⟩
  · intro hfault
    rw [Trouble.ofSettings, if_neg hfault]
    rfl

section Plain

def hostWith (bytes : List UInt8) : Host where
  tree :=
    { entries := [([Settings.fileName], .file bytes)]
      distinct := by simp }
  workingDirectory := []
  home := ⟨.ofText "/home", []⟩
  systemPath := []
  prints := fun _ => true

theorem exits_iff_loadable_list :
    ∃ file, Loadable (hostWith (Text.utf8Bytes "[a]")) (.ofText "/") file ∧
      (run (hostWith (Text.utf8Bytes "[a]")) ⟨[], []⟩ ["generate"]).ending = .exited 1 ∧
      (run (hostWith (Text.utf8Bytes "[a]")) ⟨[], []⟩ ["generate"]).errors =
        "scrtask: .scrtask.yml must contain a mapping at the root\n" := by
  let host := hostWith (Text.utf8Bytes "[a]")
  have hload : load host (.ofText "/") = .error (.notMapping ".scrtask.yml") := by decide +kernel
  obtain ⟨hsettled, hprogram⟩ := exits_iff_loadable host ⟨[], []⟩
  have hloadable : ∃ file, Loadable host (.ofText "/") file := by
    rw [← hsettled, hload]
    exact .inr ⟨_, rfl, rfl⟩
  obtain ⟨-, -, -, hexit, -⟩ := hprogram ["generate"] false _ _ rfl hload
  obtain ⟨hending, herrors⟩ := hexit hloadable
  obtain ⟨file, hfile⟩ := hloadable
  exact ⟨file, hfile, hending, herrors⟩

/-- A settings file that is no text is no fault of the configuration, and the program breaks off. -/
theorem breaks_off_without_text :
    load (hostWith [0xff]) (.ofText "/") = .error .notText ∧
      SettingsFault.notText.isConfiguration = false ∧
      (run (hostWith [0xff]) ⟨[], []⟩ ["generate"]).ending = .crashed (.settings .notText) := by
  have hload : load (hostWith [0xff]) (.ofText "/") = .error .notText := by decide +kernel
  refine ⟨hload, rfl, ?_⟩
  have hparse : parse ["generate"] = .ok ⟨false, .generate .empty⟩ := rfl
  rw [run_of_load_error hparse hload]
  rfl

end Plain

end ComponentBuild.CommandLine
