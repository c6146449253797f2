import ComponentBuild.Proofs.Settings.Faults
import ComponentBuild.Proofs.SourceSet.Root
import ComponentBuild.Proofs.Tree.Canonical

namespace ComponentBuild

variable {t : Tree} {base : Location} {p q : Path} {host : Host} {w : Location}

theorem Path.expandHome_of_isAbsolute (h : p.isAbsolute = true) (home : Home) :
    p.expandHome home = .ok p :=
  expandHome_of_homeUser?_eq_none home (homeUser?_absolute h)

def Host.movedTo (host : Host) (w : Location) : Host := { host with workingDirectory := w }

namespace Tree

theorem ask_of_isAbsolute (h : p.isAbsolute = true) (base : Location) (isTrue : Node → Bool) :
    t.ask base p isTrue = t.ask [] p isTrue := by
  rw [ask, find_of_isAbsolute h base, ask]

theorem read_of_isAbsolute (h : p.isAbsolute = true) (base : Location) :
    t.read base p = t.read [] p := by
  rw [read, find_of_isAbsolute h base, read]

theorem canonical_isAbsolute (h : t.canonical base p = .ok q) : q.isAbsolute = true := by
  simp only [canonical] at h
  split at h
  · cases h
  · obtain rfl := Except.ok.inj h
    exact Path.isAbsolute_join _ rfl

end Tree

namespace Host

theorem ask_movedTo (host : Host) (w : Location) (h : p.isAbsolute = true)
    (isTrue : Node → Bool) :
    host.tree.ask (host.movedTo w).workingDirectory p isTrue =
      host.tree.ask host.workingDirectory p isTrue := by
  rw [Tree.ask_of_isAbsolute h, ← Tree.ask_of_isAbsolute h]

theorem exists?_movedTo (h : p.isAbsolute = true) :
    (host.movedTo w).exists? p = host.exists? p :=
  host.ask_movedTo w h _

theorem isFile_movedTo (h : p.isAbsolute = true) :
    (host.movedTo w).isFile p = host.isFile p :=
  host.ask_movedTo w h _

theorem isDirectory_movedTo (h : p.isAbsolute = true) :
    (host.movedTo w).isDirectory p = host.isDirectory p :=
  host.ask_movedTo w h _

end Host

namespace Settings

variable {home : Home} {root file : Path} {c : Settings} {v : Value}

structure Anchored (c : Settings) : Prop where
  root : c.root.isAbsolute = true
  sourceDirectory : ∀ d, c.sourceDirectory = some d → d.isAbsolute = true
  outputDirectory : ∀ d, c.outputDirectory = some d → d.isAbsolute = true
  classpath : ∀ p ∈ c.classpath, p.isAbsolute = true

theorem pathFrom_isAbsolute {s : String} (hr : root.isAbsolute = true)
    (h : pathFrom home root s = .ok p) : p.isAbsolute = true := by
  unfold pathFrom at h
  split at h
  · obtain rfl := Except.ok.inj h
    exact Path.isAbsolute_join _ hr
  · cases h

theorem asPath?_isAbsolute (hr : root.isAbsolute = true) (h : asPath? home root v = .ok (some p)) :
    p.isAbsolute = true := by
  obtain ⟨found, -, h⟩ := bind_eq_ok.1 h
  cases found with
  | none => cases h
  | some s =>
    dsimp only at h
    split at h
    · cases h
    · obtain ⟨q, hq, he⟩ := map_eq_ok.1 h
      obtain rfl := Option.some.inj he
      exact pathFrom_isAbsolute hr hq

theorem asPaths_isAbsolute {ps : List Path} (hr : root.isAbsolute = true)
    (h : asPaths home root v = .ok ps) : ∀ p ∈ ps, p.isAbsolute = true := by
  obtain ⟨texts, -, h⟩ := bind_eq_ok.1 h
  intro p hp
  obtain ⟨s, -, hs⟩ := mem_of_mapM h hp
  exact pathFrom_isAbsolute hr hs

theorem anchored_usual (hr : root.isAbsolute = true) : (usual root).Anchored where
  root := hr
  sourceDirectory := nofun
  outputDirectory := nofun
  classpath := nofun

theorem Describes.anchored {pairs : List (Value × Value)} (hr : root.isAbsolute = true)
    (h : Describes home root pairs c) : c.Anchored := by
  constructor
  · rw [h.rooted]
    exact hr
  · intro d hd
    have hsource := h.sourceDirectory
    rw [hd] at hsource
    exact asPath?_isAbsolute hr hsource
  · intro d hd
    have houtput := h.outputDirectory
    rw [hd] at houtput
    exact asPath?_isAbsolute hr houtput
  · exact asPaths_isAbsolute hr h.classpath

theorem filePath_isAbsolute (h : filePath host p = .ok file) : file.isAbsolute = true := by
  obtain ⟨q, -, -, -, hcanonical⟩ := filePath_eq_ok.1 h
  exact Tree.canonical_isAbsolute hcanonical

theorem load_anchored (h : load host p = .ok c) : c.Anchored := by
  unfold load at h
  split at h
  · cases h
  · rename_i file hfile
    -- The directory of a settings file is absolute as the file itself is.
    have habs : file.isAbsolute = true := filePath_isAbsolute hfile
    have hparent : file.parent.isAbsolute = true := habs
    split at h
    · cases h
    · obtain rfl := Except.ok.inj h
      exact anchored_usual hparent
    · unfold readFile at h
      split at h
      · cases h
      · split at h
        · rename_i hpairs
          obtain rfl := Except.ok.inj h
          exact (ofPairs_eq_ok.1 hpairs).anchored hparent
        · cases h
      · cases h

theorem canonical_movedTo (h : p.isAbsolute = true) :
    canonical (host.movedTo w) p = canonical host p := by
  have hsame : (host.movedTo w).tree.canonical (host.movedTo w).workingDirectory p =
      host.tree.canonical host.workingDirectory p := Tree.canonical_of_isAbsolute h _ _
  rw [canonical, hsame, canonical]

theorem filePath_movedTo (h : p.isAbsolute = true) :
    filePath (host.movedTo w) p = filePath host p := by
  simp only [filePath, Path.expandHome_of_isAbsolute h, Host.isDirectory_movedTo h]
  cases host.isDirectory p with
  | error e => rfl
  | ok inside =>
    cases inside with
    | true => exact canonical_movedTo h
    | false => exact canonical_movedTo h

theorem readFile_movedTo (h : file.isAbsolute = true) :
    readFile (host.movedTo w) file = readFile host file := by
  have hread : (host.movedTo w).tree.read (host.movedTo w).workingDirectory file =
      host.tree.read host.workingDirectory file := by
    rw [Tree.read_of_isAbsolute h, ← Tree.read_of_isAbsolute h]
    rfl
  have hvalue : readValue (host.movedTo w) file = readValue host file := by
    rw [readValue, hread, readValue]
  rw [readFile, hvalue, readFile]
  rfl

theorem load_movedTo (h : p.isAbsolute = true) : load (host.movedTo w) p = load host p := by
  rw [load, load, filePath_movedTo h]
  cases hfile : filePath host p with
  | error fault => rfl
  | ok file =>
    have habs := filePath_isAbsolute hfile
    simp only [Host.exists?_movedTo habs, readFile_movedTo habs]

end Settings

end ComponentBuild
