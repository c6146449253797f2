import ComponentBuild.Proofs.Classpath.Additions
import ComponentBuild.Proofs.Step.Described
import ComponentBuild.Step.Run

/-!
The paths of a step over its life, additions and assignments that fail included. A path fails where
it names a user whose home directory is not known. An addition that fails keeps what stands in front
of the path that failed, and an assignment that fails adds nothing.
-/

namespace ComponentBuild

namespace Classpath

variable {host : Host} {cp cp' : Classpath} {qs : List Path} {p : Path} {fault : HomeFault}

theorem eq_of_addPath_error (h : addPaths host cp [p] = (cp', some fault)) : cp' = cp := by
  rw [addPaths] at h
  split at h
  · cases h
  · cases h
    rfl

theorem addPaths_entries (host : Host) (cp other : Classpath) :
    (addPaths host cp other.entries).2 = none := by
  have hself : List.Forall₂ (fun p q => host.entered p = .ok q) other.entries other.entries :=
    (entered_absolute other.absolute).2 rfl
  obtain ⟨cp', hadd, -⟩ := addPaths_of_entered cp hself
  rw [hadd]

theorem eq_iff_subset (h : cp'.entries = (cp.entries ++ qs).eraseDups) :
    cp' = cp ↔ qs ⊆ cp.entries := by
  constructor
  · rintro rfl p hp
    rw [h]
    exact List.mem_eraseDups.2 (List.mem_append_right _ hp)
  · intro hsubset
    apply eq_of_entries
    rw [h, eraseDups_append_of_subset hsubset, eraseDups_of_nodup cp.distinct]

end Classpath

namespace Step

/-- A step of the program at some time, with the output directory that was assigned last and where
the program then was. Whether an operation failed makes no difference to what may follow it. -/
inductive Reached : Step → Option (Host × Path) → Prop
  | made (g : Option Generator) (reference : Option String) : Reached (make g reference) none
  | described {host : Host} {c : Settings} {g : Option Generator} {s : Step} :
      ofSettings host c g = .ok s → Reached s (c.outputDirectory.map (host, ·))
  | added {s : Step} {assigned : Option (Host × Path)} (host : Host) (item : ClasspathItem) :
      Reached s assigned → Reached (s.addClasspath host item).1 assigned
  | assigned {s : Step} {assigned : Option (Host × Path)} (host : Host) (d : Option Path) :
      Reached s assigned → Reached (s.setOutputDirectory host d).1 (d.map (host, ·))
  | ran {s : Step} {assigned : Option (Host × Path)} (host : Host) (registry : Registry)
      (contexts : ClassContexts) :
      Reached s assigned → Reached (s.generate host registry contexts).step assigned
  | others {s : Step} {assigned : Option (Host × Path)} (t : Step) : Reached s assigned →
      Reached { t with classpath := s.classpath, outputDirectory := s.outputDirectory } assigned

structure Coupled (s : Step) (assigned : Option (Host × Path)) : Prop where
  unset : assigned = none → s.outputDirectory = none
  set : ∀ there d q, assigned = some (there, d) → there.entered d = .ok q →
    s.outputDirectory = some d ∧ q ∈ s.classpath.entries

/-- What an addition that fails leaves: the entries of the paths in front of the one that failed. -/
def LeavesFront (s : Step) (host : Host) (item : ClasspathItem) (fault : HomeFault) (s' : Step) :
    Prop :=
  ∃ front p rest qs, item.paths = front ++ p :: rest ∧ host.entered p = .error fault ∧
    List.Forall₂ (fun p q => host.entered p = .ok q) front qs ∧
    s'.classpath.entries = (s.classpath.entries ++ qs).eraseDups ∧
    (s' = s ↔ qs ⊆ s.classpath.entries)

variable {s s' : Step} {host : Host} {assigned : Option (Host × Path)} {item : ClasspathItem}
  {d : Option Path} {p q : Path} {fault : HomeFault}

theorem addClasspath_eq_error (h : s.addClasspath host item = (s', some fault)) :
    ∃ cp, Classpath.addPaths host s.classpath item.paths = (cp, some fault) ∧
      s' = { s with classpath := cp } := by
  simp only [addClasspath, Classpath.add, Prod.mk.injEq] at h
  obtain ⟨rfl, hfault⟩ := h
  exact ⟨_, Prod.ext rfl hfault, rfl⟩

theorem leavesFront_of_addClasspath (h : s.addClasspath host item = (s', some fault)) :
    s.LeavesFront host item fault s' := by
  obtain ⟨cp, hadd, rfl⟩ := addClasspath_eq_error h
  obtain ⟨front, p, rest, qs, hpaths, hp, hfront, hentries⟩ := Classpath.addPaths_eq_error.1 hadd
  refine ⟨front, p, rest, qs, hpaths, hp, hfront, hentries, ?_⟩
  rw [← Classpath.eq_iff_subset hentries]
  constructor
  · exact congrArg Step.classpath
  · rintro rfl
    rfl

theorem eq_of_addClasspath_path (h : s.addClasspath host (.path p) = (s', some fault)) :
    s' = s := by
  obtain ⟨cp, hadd, rfl⟩ := addClasspath_eq_error h
  rw [Classpath.eq_of_addPath_error hadd]

theorem classpath_of_setOutputDirectory (h : s.setOutputDirectory host d = (s', some fault)) :
    s'.classpath = s.classpath := by
  cases d with
  | none => cases h
  | some p => rw [eq_of_addClasspath_path h]

theorem setOutputDirectory_of_entered (s : Step) (hq : host.entered p = .ok q) :
    ∃ cp, s.setOutputDirectory host (some p) =
        ({ s with outputDirectory := some p, classpath := cp }, none) ∧ q ∈ cp.entries := by
  have hpath : List.Forall₂ (fun p q => host.entered p = .ok q) [p] [q] := .cons hq .nil
  obtain ⟨cp, hadd, -⟩ := Classpath.addPaths_of_entered s.classpath hpath
  have hset := setOutputDirectory_eq_ok (s := s) (d := some p).2 ⟨cp, hadd, rfl⟩
  exact ⟨cp, hset, Classpath.mem_of_addPaths hadd List.mem_cons_self hq⟩

theorem setOutputDirectory_succeeds_iff (s : Step) (host : Host) (d : Option Path) :
    (s.setOutputDirectory host d).2 = none ↔ ∀ p, d = some p → ∃ q, host.entered p = .ok q := by
  constructor
  · rintro h p rfl
    have hset : s.setOutputDirectory host (some p) =
        ((s.setOutputDirectory host (some p)).1, none) := Prod.ext rfl h
    obtain ⟨cp, hadd, -⟩ := setOutputDirectory_eq_ok.1 hset
    obtain ⟨qs, hqs⟩ := Classpath.entered_of_addPaths hadd
    cases hqs with
    | cons hq _ => exact ⟨_, hq⟩
  · intro h
    cases d with
    | none => rfl
    | some p =>
      obtain ⟨q, hq⟩ := h p rfl
      obtain ⟨cp, hset, -⟩ := s.setOutputDirectory_of_entered hq
      rw [hset]

theorem step_runChecked (s : Step) (host : Host) (contexts : ClassContexts)
    (options : GenerationOptions) (output : Path) (g : Generator) :
    (s.runChecked host contexts options output g).step = s := by
  unfold runChecked
  split
  · rfl
  · dsimp only
    split
    · rfl
    · unfold runLoaded
      split <;> rfl

theorem paths_generate (s : Step) (host : Host) (registry : Registry) (contexts : ClassContexts) :
    (s.generate host registry contexts).step.classpath = s.classpath ∧
      (s.generate host registry contexts).step.outputDirectory = s.outputDirectory := by
  unfold generate
  split
  · exact ⟨rfl, rfl⟩
  split
  · exact ⟨rfl, rfl⟩
  split
  · exact ⟨rfl, rfl⟩
  split
  · exact ⟨rfl, rfl⟩
  · rw [step_runChecked]
    exact ⟨rfl, rfl⟩

theorem Coupled.mono (h : Coupled s assigned) (houtput : s'.outputDirectory = s.outputDirectory)
    (hentries : s.classpath.entries ⊆ s'.classpath.entries) : Coupled s' assigned := by
  constructor
  · intro hnone
    rw [houtput]
    exact h.unset hnone
  · intro there d q hassigned hq
    obtain ⟨hd, hmem⟩ := h.set there d q hassigned hq
    exact ⟨houtput.trans hd, hentries hmem⟩

theorem coupled_ofSettings {c : Settings} {g : Option Generator}
    (h : ofSettings host c g = .ok s) : Coupled s (c.outputDirectory.map (host, ·)) := by
  obtain ⟨cp, hadd, rfl⟩ := ofSettings_eq_ok.1 h
  constructor
  · intro hnone
    exact Option.map_eq_none_iff.1 hnone
  · intro there d q hassigned hq
    obtain ⟨_, hd, he⟩ := Option.map_eq_some_iff.1 hassigned
    cases he
    refine ⟨hd, Classpath.mem_of_addPaths hadd ?_ hq⟩
    simp [hd]

theorem coupled_setOutputDirectory (s : Step) (host : Host) (d : Option Path) :
    Coupled (s.setOutputDirectory host d).1 (d.map (host, ·)) := by
  constructor
  · intro hnone
    obtain rfl := Option.map_eq_none_iff.1 hnone
    rfl
  · intro there p q hassigned hq
    obtain ⟨_, rfl, he⟩ := Option.map_eq_some_iff.1 hassigned
    cases he
    obtain ⟨cp, hset, hmem⟩ := s.setOutputDirectory_of_entered hq
    rw [hset]
    exact ⟨rfl, hmem⟩

theorem Reached.coupled (h : Reached s assigned) : Coupled s assigned := by
  -- An assignment couples the two anew; all else keeps the output directory and the entries.
  induction h with
  | made g reference => exact ⟨fun _ => rfl, nofun⟩
  | described hs => exact coupled_ofSettings hs
  | @added s assigned host item _ ih =>
    exact ih.mono rfl (Classpath.entries_subset_addPaths host s.classpath item.paths)
  | assigned host d _ _ => exact coupled_setOutputDirectory _ host d
  | @ran s assigned host registry contexts _ ih =>
    obtain ⟨hclasspath, houtput⟩ := s.paths_generate host registry contexts
    apply ih.mono houtput
    rw [hclasspath]
    exact List.Subset.refl _
  | others t _ ih => exact ih.mono rfl (List.Subset.refl _)

/-- What a failed operation on the paths of a step leaves of them, and that the output directory is
among the entries of the classpath unless its own assignment failed. -/
theorem paths_through_faults (h : Reached s assigned) (host : Host) :
    (∀ item s' fault, s.addClasspath host item = (s', some fault) →
        s' = { s with classpath := s'.classpath } ∧ s.LeavesFront host item fault s') ∧
      (∀ p s' fault, s.addClasspath host (.path p) = (s', some fault) → s' = s) ∧
      (∀ cp, (s.addClasspath host (.classpath cp)).2 = none) ∧
      (∀ d s' fault, s.setOutputDirectory host d = (s', some fault) →
        s'.classpath = s.classpath) ∧
      (∀ d, (s.setOutputDirectory host d).2 = none ↔
        ∀ p, d = some p → ∃ q, host.entered p = .ok q) ∧
      Coupled s assigned := by
  refine ⟨?_, ?_, ?_, ?_, s.setOutputDirectory_succeeds_iff host, h.coupled⟩
  · intro item s' fault hadd
    obtain ⟨cp, -, rfl⟩ := addClasspath_eq_error hadd
    exact ⟨rfl, leavesFront_of_addClasspath hadd⟩
  · intro p s' fault hadd
    exact eq_of_addClasspath_path hadd
  · intro cp
    exact Classpath.addPaths_entries host s.classpath cp
  · intro d s' fault hset
    exact classpath_of_setOutputDirectory hset

section Stranger

open Classpath (homedHost)

def strangerText : String := "a:~nobody:b"

/-- A text with an unknown user in it leaves what stands in front of the user on the classpath. -/
theorem addClasspath_leaves_part :
    Reached (make none none) none ∧ (make none none).classpath.entries = [] ∧
      ((make none none).addClasspath homedHost (.text strangerText)).2 =
        some (.unknownUser "nobody") ∧
      ((make none none).addClasspath homedHost (.text strangerText)).1.classpath.entries =
        [.ofText "/a"] := by
  refine ⟨.made none none, rfl, ?_, ?_⟩ <;> decide +kernel

def strangerStep : Step :=
  (((make none none).setOutputDirectory homedHost (some (.ofText "out"))).1.addClasspath homedHost
    (.text strangerText)).1

theorem paths_through_faults_stranger :
    Reached strangerStep (some (homedHost, .ofText "out")) ∧
      strangerStep.outputDirectory = some (.ofText "out") ∧
      .ofText "/out" ∈ strangerStep.classpath.entries ∧
      strangerStep.addClasspath homedHost (.path (.ofText "~nobody/x")) =
        (strangerStep, some (.unknownUser "nobody")) := by
  have hreached : Reached strangerStep (some (homedHost, .ofText "out")) :=
    .added homedHost _ (.assigned homedHost (some (.ofText "out")) (.made none none))
  obtain ⟨-, hpath, -, -, -, hcoupled⟩ := paths_through_faults hreached homedHost
  have hentered : homedHost.entered (.ofText "out") = .ok (.ofText "/out") := by decide +kernel
  have hfault : (strangerStep.addClasspath homedHost (.path (.ofText "~nobody/x"))).2 =
      some (.unknownUser "nobody") := by decide +kernel
  have hkept := hpath _ _ _ (Prod.ext rfl hfault)
  obtain ⟨houtput, hentry⟩ := hcoupled.set _ _ _ rfl hentered
  exact ⟨hreached, houtput, hentry, Prod.ext hkept hfault⟩

end Stranger

end Step

end ComponentBuild
