import ComponentBuild.SourceSet.Basic

namespace ComponentBuild.SourceSet

variable {s : SourceSet} {host : Host} {root : Path}

theorem ask_eq_true {t : Tree} {base : Location} {p : Path} {isTrue : Node → Bool}
    (h : t.ask base p isTrue = .ok true) : ∃ node, t.find base p = .ok node ∧ isTrue node = true := by
  unfold Tree.ask at h
  split at h
  · rename_i node hn
    exact ⟨node, hn, Except.ok.inj h⟩
  · cases h
  · cases h

theorem locate_of_isAbsolute {t : Tree} {p : Path} (h : p.isAbsolute = true) (base : Location) :
    t.locate base p = t.locate [] p := by
  simp [Tree.locate, Tree.locateWith, Tree.startOf, h]

theorem checkedRoot_eq_ok {r : Path} (h : checkedRoot host r = .ok root) :
    root = r ∧ host.exists? r = .ok true ∧ host.isDirectory r = .ok true := by
  cases he : host.exists? r with
  | error e => simp [checkedRoot, he] at h
  | ok there =>
    cases hd : host.isDirectory r with
    | error e => simp [checkedRoot, he, hd] at h
    | ok directory =>
      cases there with
      | false => simp [checkedRoot, he, hd] at h
      | true =>
        cases directory with
        | false => simp [checkedRoot, he, hd] at h
        | true =>
          simp only [checkedRoot, he, hd, Except.ok.injEq] at h
          exact ⟨h.symm, rfl, rfl⟩

theorem root_eq_ok (h : s.root host = .ok root) :
    ∃ d, s.directory = some d ∧ host.settled d = .ok root ∧ host.exists? root = .ok true ∧
      host.isDirectory root = .ok true := by
  unfold SourceSet.root at h
  split at h
  · cases h
  · rename_i d hd
    split at h
    · cases h
    · rename_i r hr
      obtain ⟨rfl, he, hdir⟩ := checkedRoot_eq_ok h
      exact ⟨d, hd, hr, he, hdir⟩

theorem root_isAbsolute (h : s.root host = .ok root) : root.isAbsolute = true := by
  obtain ⟨d, -, hr, -⟩ := root_eq_ok h
  exact Host.settled_isAbsolute hr

theorem locate_root (h : s.root host = .ok root) :
    ∃ loc, host.tree.locate [] root = .ok loc ∧ host.tree.node? loc = some .directory := by
  obtain ⟨d, -, -, -, hdir⟩ := root_eq_ok h
  obtain ⟨node, hfind, hnode⟩ := ask_eq_true hdir
  obtain rfl : node = .directory := by simpa using hnode
  unfold Tree.find at hfind
  rw [locate_of_isAbsolute (root_isAbsolute h)] at hfind
  cases hp : host.tree.locate [] root with
  | error e => simp [hp] at hfind
  | ok loc =>
    have hn : host.tree.node? loc = some .directory := by
      cases hn : host.tree.node? loc with
      | none => simp [hp, hn] at hfind
      | some node => simpa [hp, hn] using hfind
    exact ⟨loc, rfl, hn⟩

theorem settled_ofLocation (host : Host) (loc : Location) :
    host.settled (.ofLocation loc) = .ok (.ofLocation loc) := by
  have habs : host.absolute (.ofLocation loc) = .ofLocation loc := Path.join_absolute rfl
  have hn : (Path.ofLocation loc).normalized = .ofLocation loc := by
    simp [Path.normalized, Path.ofLocation, Path.settle_entries]
  rw [Host.settled, Path.expandKnownHome,
    Path.expandHome_of_homeUser?_eq_none _ (Path.homeUser?_absolute rfl)]
  simp only [Except.map, habs, hn]

theorem root_of_locate {d : Path} (hd : s.directory = some d) (hr : host.settled d = .ok root)
    {loc : Location} (hp : host.tree.locate [] root = .ok loc)
    (hn : host.tree.node? loc = some .directory) : s.root host = .ok root := by
  have hask (test : Node → Bool) :
      host.tree.ask host.workingDirectory root test = .ok (test .directory) := by
    have habs := Host.settled_isAbsolute hr
    simp only [Tree.ask, Tree.find, locate_of_isAbsolute habs, hp, hn]
  simp [SourceSet.root, hd, hr, checkedRoot, Host.exists?, Host.isDirectory, hask]

end ComponentBuild.SourceSet
