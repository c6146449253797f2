import ComponentBuild.Proofs.Settings.Legible

namespace ComponentBuild.Settings

variable {host : Host} {home : Home} {p file : Path} {v : Value} {cs : List Char}
  {fault : SettingsFault}

def standsFor (host : Host) (p : Path) : Path :=
  if host.tree.isDirectory host.workingDirectory p then p.child fileName else p

def Finds (host : Host) (p file : Path) : Prop :=
  ∃ q, p.expandHome host.home = .ok q ∧ host.Answers q ∧ (standsFor host q).hasNullByte = false ∧
    host.tree.canonical host.workingDirectory (standsFor host q) = .ok file

inductive Settles (home : Home) (cs : List Char) : Prop
  | blank : cs.all Text.isBlank = true → Settles home cs
  | malformed {what : String} : Yaml.load depth cs = .error (.malformed what) → Settles home cs
  | value {v : Value} : Yaml.load depth cs = .ok v →
      (∀ pairs, v = .map pairs → Legible home pairs) → Settles home cs

def Holds (host : Host) (file : Path) : Prop :=
  ∃ bytes cs, host.tree.read host.workingDirectory file = .ok bytes ∧
    Text.decodeUtf8 bytes = some cs ∧ Settles host.home (Text.unifyNewlines cs)

structure Loadable (host : Host) (p file : Path) : Prop where
  finds : Finds host p file
  answers : host.Answers file
  holds : host.tree.exists? host.workingDirectory file = true → Holds host file

def Settled (r : Except SettingsFault Settings) : Prop :=
  (∃ c, r = .ok c) ∨ ∃ fault, r = .error fault ∧ fault.isConfiguration = true

theorem settled_error : Settled (.error fault) ↔ fault.isConfiguration = true := by
  simp [Settled]

theorem canonical_eq_ok :
    canonical host p = .ok file ↔
      p.hasNullByte = false ∧ host.tree.canonical host.workingDirectory p = .ok file := by
  unfold canonical
  cases p.hasNullByte with
  | true => simp
  | false => cases host.tree.canonical host.workingDirectory p <;> simp

theorem filePath_eq_ok : filePath host p = .ok file ↔ Finds host p file := by
  unfold filePath Finds
  cases p.expandHome host.home with
  | error fault => simp
  | ok q =>
    by_cases hq : host.Answers q
    · simp [Host.isDirectory_of_answers hq, canonical_eq_ok, standsFor, hq]
    · simp [Host.isDirectory, Host.ask_of_not_answers hq, hq]

theorem canonical_fault (h : canonical host p = .error fault) : fault.isConfiguration = false := by
  unfold canonical at h
  split at h
  · cases h
    rfl
  split at h
  · cases h
  · cases h
    rfl

theorem filePath_fault (h : filePath host p = .error fault) : fault.isConfiguration = false := by
  unfold filePath at h
  split at h
  · cases h
    rfl
  split at h
  · cases h
    rfl
  · exact canonical_fault h

theorem legible_nil (home : Home) : Legible home [] := by
  have hfield (name : String) : field [] name = .null := rfl
  constructor
  · intro name _ i hi
    rw [hfield] at hi
    cases hi
  · intro name _ items hitems
    rw [hfield] at hitems
    cases hitems
  · intro pairs hpairs
    cases hpairs
  · intro name _ s hs
    rw [hfield] at hs
    cases hs
  · intro s hs
    cases hs

theorem readFile_of_fault (h : readValue host file = .error fault) :
    Settled (readFile host file) ↔ fault.isConfiguration = true := by
  rw [readFile, h, ← settled_error]

theorem readFile_of_value (h : readValue host file = .ok v) :
    Settled (readFile host file) ↔ ∀ pairs, v = .map pairs → Legible host.home pairs := by
  rw [readFile, h]
  cases v with
  | map pairs =>
    have hpairs : (∃ c, ofPairs host.home file.parent pairs = .ok c) ↔ Legible host.home pairs :=
      ofPairs_succeeds_iff
    simp only [Value.map.injEq, forall_eq', ← hpairs]
    cases ofPairs host.home file.parent pairs with
    | ok c => simp [Settled]
    | error fault => simp [settled_error, SettingsFault.isConfiguration]
  | _ => simp [settled_error, SettingsFault.isConfiguration]

theorem settles_of_not_blank (hblank : cs.all Text.isBlank ≠ true) :
    Settles home cs ↔ (∃ what, Yaml.load depth cs = .error (.malformed what)) ∨
      ∃ v, Yaml.load depth cs = .ok v ∧ ∀ pairs, v = .map pairs → Legible home pairs := by
  constructor
  · intro h
    cases h with
    | blank hall => exact absurd hall hblank
    | malformed hload => exact .inl ⟨_, hload⟩
    | value hload hlegible => exact .inr ⟨_, hload, hlegible⟩
  · rintro (⟨what, hload⟩ | ⟨v, hload, hlegible⟩)
    · exact .malformed hload
    · exact .value hload hlegible

theorem readFile_of_text {bytes : List UInt8}
    (hread : host.tree.read host.workingDirectory file = .ok bytes)
    (hcs : Text.decodeUtf8 bytes = some cs) :
    Settled (readFile host file) ↔ Settles host.home (Text.unifyNewlines cs) := by
  by_cases hblank : (Text.unifyNewlines cs).all Text.isBlank = true
  · have hvalue : readValue host file = .ok (.map []) := by
      simp only [readValue, hread, hcs, hblank, ↓reduceIte]
    rw [readFile_of_value hvalue]
    constructor
    · intro _
      exact .blank hblank
    · rintro - pairs hpairs
      cases hpairs
      exact legible_nil host.home
  · rw [settles_of_not_blank hblank]
    cases hload : Yaml.load depth (Text.unifyNewlines cs) with
    | error fault =>
      have hvalue : ∃ found, readValue host file = .error found ∧
          (found.isConfiguration = true ↔ ∃ what, fault = .malformed what) := by
        simp only [readValue, hread, hcs, hblank, hload]
        cases fault <;> exact ⟨_, rfl, by simp [SettingsFault.isConfiguration]⟩
      obtain ⟨found, hfound, hiff⟩ := hvalue
      rw [readFile_of_fault hfound, hiff]
      simp
    | ok v =>
      have hvalue : readValue host file = .ok (if v.isTruthy then v else .map []) := by
        simp only [readValue, hread, hcs, hblank, hload]
        rfl
      rw [readFile_of_value hvalue]
      cases htruthy : v.isTruthy with
      | true => simp
      | false =>
        -- A value that counts as false is no mapping but the empty one.
        have hempty : ∀ pairs, v = .map pairs → pairs = [] := by
          rintro pairs rfl
          simpa [Value.isTruthy] using htruthy
        constructor
        · intro _
          refine .inr ⟨v, rfl, ?_⟩
          intro pairs hpairs
          rw [hempty pairs hpairs]
          exact legible_nil host.home
        · rintro - pairs hpairs
          cases hpairs
          exact legible_nil host.home

theorem readFile_settled_iff : Settled (readFile host file) ↔ Holds host file := by
  cases hread : host.tree.read host.workingDirectory file with
  | error e =>
    have hvalue : readValue host file = .error (.unreadable e) := by
      simp only [readValue, hread]
    rw [readFile_of_fault hvalue]
    simp [Holds, hread, SettingsFault.isConfiguration]
  | ok bytes =>
    cases hcs : Text.decodeUtf8 bytes with
    | none =>
      have hvalue : readValue host file = .error .notText := by
        simp only [readValue, hread, hcs]
      rw [readFile_of_fault hvalue]
      simp [Holds, hread, hcs, SettingsFault.isConfiguration]
    | some cs =>
      rw [readFile_of_text hread hcs]
      simp [Holds, hread, hcs]

theorem loadable_iff (h : filePath host p = .ok file) :
    (∃ found, Loadable host p found) ↔ host.Answers file ∧
      (host.tree.exists? host.workingDirectory file = true → Holds host file) := by
  constructor
  · rintro ⟨found, hfinds, hanswers, hholds⟩
    rw [filePath_eq_ok.2 hfinds] at h
    obtain rfl := Except.ok.inj h
    exact ⟨hanswers, hholds⟩
  · rintro ⟨hanswers, hholds⟩
    exact ⟨file, filePath_eq_ok.1 h, hanswers, hholds⟩

theorem load_settled_iff : Settled (load host p) ↔ ∃ file, Loadable host p file := by
  cases hfile : filePath host p with
  | error fault =>
    have hfinds : ¬ ∃ file, Loadable host p file := by
      rintro ⟨file, hload⟩
      rw [filePath_eq_ok.2 hload.finds] at hfile
      cases hfile
    rw [load, hfile]
    simp [settled_error, filePath_fault hfile, hfinds]
  | ok file =>
    rw [loadable_iff hfile, load, hfile]
    by_cases hanswers : host.Answers file
    · simp only [Host.exists?_of_answers hanswers, hanswers, true_and]
      cases host.tree.exists? host.workingDirectory file with
      | false => simp [Settled]
      | true => simp [readFile_settled_iff]
    · simp [Host.exists?, Host.ask_of_not_answers hanswers, hanswers, settled_error,
        SettingsFault.isConfiguration]

end ComponentBuild.Settings
