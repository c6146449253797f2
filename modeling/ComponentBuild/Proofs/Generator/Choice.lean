import ComponentBuild.Proofs.Generator.Reference

namespace ComponentBuild

theorem Text.sortTexts_perm (ss : List String) : (sortTexts ss).Perm ss := sortBy_perm id ss

theorem Text.sortTexts_sorted (ss : List String) : (sortTexts ss).Pairwise (· ≤ ·) :=
  sortBy_sorted id ss

theorem Text.sortTexts_eq_of_perm {ss ts : List String} (h : ss.Perm ts) :
    sortTexts ss = sortTexts ts := by
  have hperm : (sortTexts ss).Perm (sortTexts ts) :=
    ((sortTexts_perm ss).trans h).trans (sortTexts_perm ts).symm
  apply hperm.eq_of_pairwise _ (sortTexts_sorted ss) (sortTexts_sorted ts)
  intro a b _ _ hab hba
  exact String.le_antisymm hab hba

namespace Registry

variable {r r' : Registry} {log : Option TaskLog} {l : Loaded} {e : EntryPoint}

theorem available_perm (r : Registry) : r.available.Perm (r.installed.map EntryPoint.name) :=
  Text.sortTexts_perm _

theorem available_eq_of_perm
    (h : (r'.installed.map EntryPoint.name).Perm (r.installed.map EntryPoint.name)) :
    r'.available = r.available :=
  Text.sortTexts_eq_of_perm h

theorem load_of_several (h : 2 ≤ r.installed.length) :
    r.load none log = .error (.configuration (.severalInstalled r.available)) := by
  have hload : r.load none log = r.loadInstalled log := rfl
  rw [hload, loadInstalled]
  split
  · rename_i hnone
    simp [hnone] at h
  · rename_i e hone
    simp [hone] at h
  · rfl

theorem load_of_one (h : r.installed = [e]) : r.load none log =
    match r.loadEntryPoint e.value with
    | .ok o => coerce o e.name log
    | .error fault => .error (.configuration (.entryPoint e.name fault)) := by
  have hload : r.load none log = r.loadInstalled log := rfl
  rewrite [hload, loadInstalled, h]
  rfl

theorem load_of_none (h : r.installed = []) :
    r.load none log = .error (.configuration .noneInstalled) := by
  have hload : r.load none log = r.loadInstalled log := rfl
  rw [hload, loadInstalled, h]

theorem load_installed_eq_ok : r.load none log = .ok l ↔
    ∃ e o, r.installed = [e] ∧ r.loadEntryPoint e.value = .ok o ∧ o.Provides log l := by
  constructor
  · intro h
    match hinstalled : r.installed with
    | [] =>
      rw [load_of_none hinstalled] at h
      cases h
    | [e] =>
      rw [load_of_one hinstalled] at h
      split at h
      · rename_i o ho
        exact ⟨e, o, rfl, ho, coerce_eq_ok.1 h⟩
      · cases h
    | e :: e' :: rest =>
      rw [load_of_several (by simp [hinstalled])] at h
      cases h
  · rintro ⟨e, o, hone, ho, hl⟩
    rw [load_of_one hone, ho]
    exact coerce_of_provides hl

theorem loadEntryPoint_congr (h : r'.modules = r.modules) (value : String) :
    r'.loadEntryPoint value = r.loadEntryPoint value := by
  unfold loadEntryPoint
  simp only [importModule_congr h]

theorem load_eq_of_perm (hmodules : r'.modules = r.modules) (h : r'.installed.Perm r.installed) :
    r'.load none log = r.load none log := by
  match hinstalled : r.installed with
  | [] =>
    rw [hinstalled, List.perm_nil] at h
    rw [load_of_none hinstalled, load_of_none h]
  | [e] =>
    rw [hinstalled, List.perm_singleton] at h
    rw [load_of_one hinstalled, load_of_one h, loadEntryPoint_congr hmodules]
  | e :: e' :: rest =>
    have hlength : 2 ≤ r.installed.length := by simp [hinstalled]
    have hlength' : 2 ≤ r'.installed.length := h.length_eq ▸ hlength
    rw [load_of_several hlength, load_of_several hlength', available_eq_of_perm (h.map _)]

/-- Which generator is taken, and which names are told, does not depend on the order in which they
are installed. The names are all those of the group, sorted. Only a single one is taken, and two or
more are refused with these names whatever they would come to, so that none of them is loaded. -/
theorem choice_order_free (r : Registry) (log : Option TaskLog) :
    (∀ r' : Registry, r'.modules = r.modules → r'.installed.Perm r.installed →
        r'.load none log = r.load none log ∧ r'.available = r.available) ∧
      (r.available.Perm (r.installed.map EntryPoint.name) ∧ r.available.Pairwise (· ≤ ·)) ∧
      (∀ l, r.load none log = .ok l →
        ∃ e o, r.installed = [e] ∧ r.loadEntryPoint e.value = .ok o ∧ o.Provides log l) ∧
      (2 ≤ r.installed.length → ∀ r' : Registry,
        (r'.installed.map EntryPoint.name).Perm (r.installed.map EntryPoint.name) →
        ∃ fault, r'.load none log = .error (.configuration fault) ∧
          fault.message =
            "Multiple descriptor generators installed: " ++ ", ".intercalate r.available) := by
  refine ⟨?_, ⟨available_perm r, Text.sortTexts_sorted _⟩, ?_, ?_⟩
  · intro r' hmodules hperm
    exact ⟨load_eq_of_perm hmodules hperm, available_eq_of_perm (hperm.map _)⟩
  · intro l hl
    exact load_installed_eq_ok.1 hl
  · intro hlength r' hnames
    have hlength' : 2 ≤ r'.installed.length := by
      have hsame := hnames.length_eq
      rw [List.length_map, List.length_map] at hsame
      exact hsame ▸ hlength
    refine ⟨_, load_of_several hlength', ?_⟩
    rw [available_eq_of_perm hnames]
    rfl

section Crowd

def crowdRegistry : Registry :=
  ⟨[], [⟨"zeta", "kit:tools.make", generatorGroup⟩, ⟨"alpha", "kit:tools", generatorGroup⟩,
    ⟨"beta", "kit:tools", "console_scripts"⟩, ⟨"alpha", "kit:tools.name", generatorGroup⟩]⟩

theorem choice_order_free_crowd : 2 ≤ crowdRegistry.installed.length ∧
    crowdRegistry.available = ["alpha", "alpha", "zeta"] ∧
    ∀ log, ∃ fault,
      ({ kitRegistry with entryPoints := crowdRegistry.entryPoints.reverse } : Registry).load none log =
        .error (.configuration fault) ∧
      fault.message = "Multiple descriptor generators installed: alpha, alpha, zeta" := by
  have hlength : 2 ≤ crowdRegistry.installed.length := by decide
  have havailable : crowdRegistry.available = ["alpha", "alpha", "zeta"] := by decide
  refine ⟨hlength, havailable, ?_⟩
  intro log
  obtain ⟨-, -, -, hseveral⟩ := choice_order_free crowdRegistry log
  obtain ⟨fault, hload, hmessage⟩ := hseveral hlength
    { kitRegistry with entryPoints := crowdRegistry.entryPoints.reverse } (by decide)
  rw [havailable] at hmessage
  exact ⟨fault, hload, hmessage⟩

end Crowd

end Registry

end ComponentBuild
