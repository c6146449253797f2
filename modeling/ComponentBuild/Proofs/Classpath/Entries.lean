import ComponentBuild.Classpath.Basic
import ComponentBuild.Proofs.Fallible

namespace ComponentBuild

def Host.entered (host : Host) (p : Path) : Except HomeFault Path :=
  (p.expandHome host.home).map host.absolute

def Host.Enters (host : Host) (ps entries : List Path) : Prop :=
  ∃ qs, List.Forall₂ (fun p q => host.entered p = .ok q) ps qs ∧ qs.eraseDups = entries

namespace Host

variable {host : Host} {p q : Path} {ps : List Path}

theorem entered_isAbsolute (h : host.entered p = .ok q) : q.isAbsolute = true := by
  obtain ⟨r, -, rfl⟩ := map_eq_ok.1 h
  exact host.absolute_isAbsolute r

theorem entered_of_isAbsolute (h : p.isAbsolute = true) : host.entered p = .ok p := by
  have hhome := Path.expandHome_of_homeUser?_eq_none host.home (Path.homeUser?_absolute h)
  rw [entered, hhome]
  exact congrArg Except.ok (Path.join_absolute h)

end Host

namespace Classpath

variable {host : Host} {cp : Classpath} {ps qs : List Path}

theorem eraseDups_of_nodup {l : List Path} (h : l.Nodup) : l.eraseDups = l := by
  induction l with
  | nil => rfl
  | cons p l ih =>
    obtain ⟨hp, hl⟩ := List.nodup_cons.1 h
    have hothers : l.filter (fun q => !q == p) = l := by
      apply List.filter_eq_self.2
      intro q hq
      have hne : q ≠ p := fun e => hp (e ▸ hq)
      simpa using hne
    rw [List.eraseDups_cons, hothers, ih hl]

theorem eraseDups_insert (cp : Classpath) {p : Path} (hp : p.isAbsolute = true) (qs : List Path) :
    ((cp.insert p hp).entries ++ qs).eraseDups = (cp.entries ++ p :: qs).eraseDups := by
  rw [entries_insert]
  split
  · rename_i hmem
    simp [List.eraseDups_append, List.removeAll, hmem]
  · rw [List.append_assoc]
    rfl

theorem addPath_eq_ok {p : Path} {cp' : Classpath} :
    cp.addPath host p = .ok cp' ↔
      ∃ q, ∃ h : host.entered p = .ok q, cp' = cp.insert q (Host.entered_isAbsolute h) := by
  unfold addPath
  constructor
  · intro h
    obtain ⟨r, hr, rfl⟩ := map_eq_ok.1 h
    exact ⟨_, map_eq_ok.2 ⟨r, hr, rfl⟩, rfl⟩
  · rintro ⟨q, h, rfl⟩
    obtain ⟨r, hr, rfl⟩ := map_eq_ok.1 h
    exact map_eq_ok.2 ⟨r, hr, rfl⟩

theorem addPaths_of_entered (cp : Classpath)
    (h : List.Forall₂ (fun p q => host.entered p = .ok q) ps qs) :
    ∃ cp', addPaths host cp ps = (cp', none) ∧ cp'.entries = (cp.entries ++ qs).eraseDups := by
  induction h generalizing cp with
  | nil =>
    refine ⟨cp, rfl, ?_⟩
    rw [List.append_nil, eraseDups_of_nodup cp.distinct]
  | @cons p q ps qs hp hps ih =>
    have hadd : cp.addPath host p = .ok (cp.insert q (Host.entered_isAbsolute hp)) :=
      addPath_eq_ok.2 ⟨q, hp, rfl⟩
    obtain ⟨cp', hrest, hentries⟩ := ih (cp.insert q (Host.entered_isAbsolute hp))
    refine ⟨cp', ?_, ?_⟩
    · rw [addPaths, hadd]
      exact hrest
    · rw [hentries, eraseDups_insert]

theorem entered_of_addPaths {cp' : Classpath} (h : addPaths host cp ps = (cp', none)) :
    ∃ qs, List.Forall₂ (fun p q => host.entered p = .ok q) ps qs := by
  induction ps generalizing cp with
  | nil => exact ⟨[], .nil⟩
  | cons p ps ih =>
    rw [addPaths] at h
    split at h
    · rename_i hadd
      obtain ⟨q, hq, -⟩ := addPath_eq_ok.1 hadd
      obtain ⟨qs, hqs⟩ := ih h
      exact ⟨q :: qs, .cons hq hqs⟩
    · cases h

theorem eq_of_entries {cp' : Classpath} (h : cp.entries = cp'.entries) : cp = cp' := by
  obtain ⟨entries, distinct, absolute⟩ := cp
  obtain ⟨entries', distinct', absolute'⟩ := cp'
  cases h
  rfl

theorem addPaths_eq_ok {cp' : Classpath} :
    addPaths host cp ps = (cp', none) ↔
      ∃ qs, List.Forall₂ (fun p q => host.entered p = .ok q) ps qs ∧
        cp'.entries = (cp.entries ++ qs).eraseDups := by
  constructor
  · intro h
    obtain ⟨qs, hqs⟩ := entered_of_addPaths h
    obtain ⟨found, hadd, hentries⟩ := addPaths_of_entered cp hqs
    rw [h] at hadd
    cases hadd
    exact ⟨qs, hqs, hentries⟩
  · rintro ⟨qs, hqs, hentries⟩
    obtain ⟨found, hadd, hfound⟩ := addPaths_of_entered cp hqs
    rw [hadd, eq_of_entries (hfound.trans hentries.symm)]

theorem addPath_eq_error {p : Path} {fault : HomeFault} :
    cp.addPath host p = .error fault ↔ host.entered p = .error fault := by
  unfold addPath Host.entered
  cases p.expandHome host.home with
  | error e => simp [Except.map]
  | ok q => simp [Except.map]

theorem addPaths_eq_error {cp' : Classpath} {fault : HomeFault} :
    addPaths host cp ps = (cp', some fault) ↔
      ∃ front p rest qs, ps = front ++ p :: rest ∧ host.entered p = .error fault ∧
        List.Forall₂ (fun p q => host.entered p = .ok q) front qs ∧
          cp'.entries = (cp.entries ++ qs).eraseDups := by
  induction ps generalizing cp with
  | nil => simp [addPaths]
  | cons p ps ih =>
    rw [addPaths]
    constructor
    · intro h
      split at h
      · rename_i next hadd
        obtain ⟨q, hq, rfl⟩ := addPath_eq_ok.1 hadd
        obtain ⟨front, bad, rest, qs, rfl, hbad, hfront, hentries⟩ := ih.1 h
        rw [eraseDups_insert] at hentries
        exact ⟨p :: front, bad, rest, q :: qs, rfl, hbad, .cons hq hfront, hentries⟩
      · rename_i e hadd
        cases h
        refine ⟨[], p, ps, [], rfl, addPath_eq_error.1 hadd, .nil, ?_⟩
        rw [List.append_nil, eraseDups_of_nodup cp'.distinct]
    · rintro ⟨front, bad, rest, qs, hps, hbad, hfront, hentries⟩
      cases hfront with
      | nil =>
        obtain ⟨rfl, rfl⟩ := List.cons.inj hps
        rw [addPath_eq_error.2 hbad]
        rw [List.append_nil, eraseDups_of_nodup cp.distinct] at hentries
        rw [eq_of_entries hentries]
      | @cons _ q front qs hq hfront =>
        obtain ⟨rfl, rfl⟩ := List.cons.inj hps
        have hadd : cp.addPath host p = .ok (cp.insert q (Host.entered_isAbsolute hq)) :=
          addPath_eq_ok.2 ⟨q, hq, rfl⟩
        rw [hadd]
        apply ih.2
        refine ⟨front, bad, rest, qs, rfl, hbad, hfront, ?_⟩
        rw [hentries, eraseDups_insert]

theorem subset_eraseDups_append (cp : Classpath) (qs : List Path) :
    cp.entries ⊆ (cp.entries ++ qs).eraseDups := by
  intro p hp
  exact List.mem_eraseDups.2 (List.mem_append_left _ hp)

theorem entries_subset_addPaths (host : Host) (cp : Classpath) (ps : List Path) :
    cp.entries ⊆ (addPaths host cp ps).1.entries := by
  rcases hadd : addPaths host cp ps with ⟨cp', _ | fault⟩
  · obtain ⟨qs, -, hentries⟩ := addPaths_eq_ok.1 hadd
    rw [hentries]
    exact cp.subset_eraseDups_append qs
  · obtain ⟨front, p, rest, qs, -, -, -, hentries⟩ := addPaths_eq_error.1 hadd
    rw [hentries]
    exact cp.subset_eraseDups_append qs

theorem mem_of_entered {p q : Path}
    (h : List.Forall₂ (fun p q => host.entered p = .ok q) ps qs) (hp : p ∈ ps)
    (hq : host.entered p = .ok q) : q ∈ qs := by
  induction h with
  | nil => cases hp
  | @cons p' q' ps qs hq' _ ih =>
    rcases List.mem_cons.1 hp with rfl | hp
    · rw [hq] at hq'
      exact Except.ok.inj hq' ▸ List.mem_cons_self
    · exact List.mem_cons_of_mem _ (ih hp)

theorem mem_of_addPaths {cp' : Classpath} {p q : Path}
    (h : addPaths host cp ps = (cp', none)) (hp : p ∈ ps)
    (hq : host.entered p = .ok q) : q ∈ cp'.entries := by
  obtain ⟨qs, hqs, hentries⟩ := addPaths_eq_ok.1 h
  have hmem : q ∈ qs := mem_of_entered hqs hp hq
  rw [hentries]
  exact List.mem_eraseDups.2 (List.mem_append_right _ hmem)

theorem addPaths_append (cp : Classpath) (ps qs : List Path) :
    addPaths host cp (ps ++ qs) =
      match addPaths host cp ps with
      | (cp', none) => addPaths host cp' qs
      | failed => failed := by
  induction ps generalizing cp with
  | nil => rfl
  | cons p ps ih =>
    simp only [List.cons_append, addPaths]
    cases cp.addPath host p with
    | ok next => exact ih next
    | error fault => rfl

theorem enters_iff {entries : List Path} :
    host.Enters ps entries ↔ ∃ cp, addPaths host empty ps = (cp, none) ∧ cp.entries = entries := by
  constructor
  · rintro ⟨qs, hqs, rfl⟩
    exact addPaths_of_entered empty hqs
  · rintro ⟨cp, hadd, rfl⟩
    obtain ⟨qs, hqs, hentries⟩ := addPaths_eq_ok.1 hadd
    exact ⟨qs, hqs, hentries.symm⟩

theorem enters_of_entered {entries : List Path}
    (h : List.Forall₂ (fun p q => host.entered p = .ok q) ps qs) (he : qs.eraseDups = entries) :
    host.Enters qs entries := by
  refine ⟨qs, ?_, he⟩
  clear he
  induction h with
  | nil => exact .nil
  | cons hp _ ih => exact .cons (Host.entered_of_isAbsolute (Host.entered_isAbsolute hp)) ih

theorem parse_eq_ok {s : String} :
    parse host s = .ok cp ↔ host.Enters ((Text.parts separator s).map Path.ofText) cp.entries := by
  have hpaths : [ClasspathItem.text s].flatMap ClasspathItem.paths =
      (Text.parts separator s).map Path.ofText := List.flatMap_singleton ..
  rw [enters_iff, parse, ofItems, hpaths]
  constructor
  · intro h
    split at h
    · rename_i cp' hadd
      obtain rfl := Except.ok.inj h
      exact ⟨cp', hadd, rfl⟩
    · cases h
  · rintro ⟨cp', hadd, hentries⟩
    rw [hadd, eq_of_entries hentries]

end Classpath

end ComponentBuild
