import ComponentBuild.Proofs.CommandLine.SettingsFaults

namespace ComponentBuild

/-- The values that count as false, apart from null and the empty mapping. -/
inductive Value.Hollow : Value → Prop
  | no : Hollow (.bool false)
  | zero : Hollow (.int 0)
  | float {x : Float} : x.isNaN = false → (x != 0.0) = false → Hollow (.float x)
  | text : Hollow (.text "")
  | binary : Hollow (.binary [])
  | list : Hollow (.list [])
  | set : Hollow (.set [])

theorem Value.hollow_iff {v : Value} :
    v.Hollow ↔ v.isTruthy = false ∧ v ≠ .null ∧ ∀ pairs, v ≠ .map pairs := by
  constructor
  · rintro (_ | _ | ⟨hnan, hzero⟩ | _ | _ | _ | _)
    case float => exact ⟨Bool.or_eq_false_iff.2 ⟨hnan, hzero⟩, by simp, by simp⟩
    all_goals exact ⟨rfl, by simp, by simp⟩
  · rintro ⟨hfalse, hnull, hmap⟩
    cases v with
    | null => exact absurd rfl hnull
    | bool b =>
      obtain rfl : b = false := hfalse
      exact .no
    | int i =>
      obtain rfl : i = 0 := by simpa [isTruthy] using hfalse
      exact .zero
    | float x =>
      obtain ⟨hnan, hzero⟩ := Bool.or_eq_false_iff.1 hfalse
      exact .float hnan hzero
    | text s =>
      obtain rfl : s = "" := by simpa [isTruthy] using hfalse
      exact .text
    | binary bytes =>
      obtain rfl : bytes = [] := by simpa [isTruthy] using hfalse
      exact .binary
    | moment m => cases hfalse
    | list items =>
      obtain rfl : items = [] := by simpa [isTruthy] using hfalse
      exact .list
    | map pairs => exact absurd rfl (hmap pairs)
    | set items =>
      obtain rfl : items = [] := by simpa [isTruthy] using hfalse
      exact .set

namespace Settings

variable {host : Host} {p file : Path} {cs : List Char} {v : Value}
  {pairs : List (Value × Value)} {c : Settings}

structure HoldsText (host : Host) (p file : Path) (cs : List Char) : Prop where
  found : filePath host p = .ok file
  stands : host.exists? file = .ok true
  text : ∃ bytes raw, host.tree.read host.workingDirectory file = .ok bytes ∧
    Text.decodeUtf8 bytes = some raw ∧ Text.unifyNewlines raw = cs

structure HoldsValue (host : Host) (p file : Path) (v : Value) : Prop where
  text : ∃ cs, HoldsText host p file cs ∧ cs.all Text.isBlank = false ∧ Yaml.load depth cs = .ok v

inductive Configures (host : Host) (p : Path) : Settings → Prop
  | missing {file : Path} : filePath host p = .ok file → host.exists? file = .ok false →
      Configures host p (usual file.parent)
  | blank {file : Path} {cs : List Char} : HoldsText host p file cs →
      cs.all Text.isBlank = true → Configures host p (usual file.parent)
  | null {file : Path} : HoldsValue host p file .null → Configures host p (usual file.parent)
  | hollow {file : Path} {v : Value} : HoldsValue host p file v → v.Hollow →
      Configures host p (usual file.parent)
  | mapping {file : Path} {pairs : List (Value × Value)} {c : Settings} :
      HoldsValue host p file (.map pairs) → Describes host.home file.parent pairs c →
      Configures host p c

theorem ofPairs_nil (home : Home) (root : Path) : ofPairs home root [] = .ok (usual root) := rfl

theorem Reads.load_of_nil (h : Reads host p file []) : load host p = .ok (usual file.parent) :=
  (load_of_reads h).2 (ofPairs_eq_ok.1 (ofPairs_nil _ _))

theorem HoldsText.load_of_blank (h : HoldsText host p file cs)
    (hblank : cs.all Text.isBlank = true) : load host p = .ok (usual file.parent) := by
  obtain ⟨bytes, raw, hread, hraw, rfl⟩ := h.text
  apply Reads.load_of_nil
  refine ⟨h.found, h.stands, ?_⟩
  simp only [readValue, hread, hraw, hblank, ↓reduceIte]

theorem HoldsValue.readValue_eq (h : HoldsValue host p file v) :
    readValue host file = .ok (if v.isTruthy then v else .map []) := by
  obtain ⟨cs, htext, hblank, hload⟩ := h.text
  obtain ⟨bytes, raw, hread, hraw, rfl⟩ := htext.text
  simp only [readValue, hread, hraw, hblank, hload]
  rfl

theorem HoldsValue.load_of_false (h : HoldsValue host p file v) (hv : v.isTruthy = false) :
    load host p = .ok (usual file.parent) := by
  obtain ⟨cs, htext, -⟩ := h.text
  apply Reads.load_of_nil
  refine ⟨htext.found, htext.stands, ?_⟩
  rw [h.readValue_eq, hv]
  rfl

theorem HoldsValue.load_of_map (h : HoldsValue host p file (.map pairs)) :
    load host p = .ok c ↔ Describes host.home file.parent pairs c := by
  obtain ⟨cs, htext, -⟩ := h.text
  apply load_of_reads
  refine ⟨htext.found, htext.stands, ?_⟩
  rw [h.readValue_eq]
  cases pairs with
  | nil => rfl
  | cons pair pairs => rfl

theorem HoldsValue.load_of_true (h : HoldsValue host p file v) (hv : v.isTruthy = true)
    (hm : ∀ pairs, v ≠ .map pairs) : load host p = .error (.notMapping file.name) := by
  obtain ⟨cs, htext, -⟩ := h.text
  have hread := h.readValue_eq
  rw [hv, if_pos rfl] at hread
  simp only [load, htext.found, htext.stands, readFile, hread]

theorem HoldsValue.load_iff_hollow (h : HoldsValue host p file v) (hn : v ≠ .null)
    (hm : ∀ pairs, v ≠ .map pairs) :
    (load host p = .error (.notMapping file.name) ↔ ¬ v.Hollow) ∧
      (v.Hollow → load host p = .ok (usual file.parent)) := by
  cases hv : v.isTruthy with
  | true =>
    have hfull : ¬ v.Hollow := by
      intro hh
      rw [(Value.hollow_iff.1 hh).1] at hv
      cases hv
    simp [h.load_of_true hv hm, hfull]
  | false =>
    have hhollow : v.Hollow := Value.hollow_iff.2 ⟨hv, hn, hm⟩
    simp [h.load_of_false hv, hhollow]

theorem HoldsText.readValue_cases (h : HoldsText host p file cs) :
    cs.all Text.isBlank = true ∨ (∃ v, HoldsValue host p file v) ∨
      ∃ fault, readValue host file = .error fault := by
  obtain ⟨bytes, raw, hread, hraw, rfl⟩ := h.text
  cases hblank : (Text.unifyNewlines raw).all Text.isBlank with
  | true => exact .inl rfl
  | false =>
    cases hload : Yaml.load depth (Text.unifyNewlines raw) with
    | ok v => exact .inr (.inl ⟨v, _, h, hblank, hload⟩)
    | error fault =>
      right
      right
      simp only [readValue, hread, hraw, hblank, hload]
      cases fault <;> exact ⟨_, rfl⟩

theorem load_cases (h : load host p = .ok c) : ∃ file, filePath host p = .ok file ∧
    (host.exists? file = .ok false ∧ c = usual file.parent ∨
      ∃ cs, HoldsText host p file cs ∧ readFile host file = .ok c) := by
  unfold load at h
  split at h
  · cases h
  · rename_i file hfile
    split at h
    · cases h
    · rename_i hmissing
      exact ⟨file, hfile, .inl ⟨hmissing, (Except.ok.inj h).symm⟩⟩
    · rename_i hstands
      refine ⟨file, hfile, .inr ?_⟩
      cases hread : host.tree.read host.workingDirectory file with
      | error e => simp [readFile, readValue, hread] at h
      | ok bytes =>
        cases hraw : Text.decodeUtf8 bytes with
        | none => simp [readFile, readValue, hread, hraw] at h
        | some raw => exact ⟨_, ⟨hfile, hstands, bytes, raw, hread, hraw, rfl⟩, h⟩

theorem load_eq_ok_iff : load host p = .ok c ↔ Configures host p c := by
  constructor
  · intro h
    obtain ⟨file, hfile, ⟨hmissing, rfl⟩ | ⟨cs, htext, hread⟩⟩ := load_cases h
    · exact .missing hfile hmissing
    · rcases htext.readValue_cases with hblank | ⟨v, hvalue⟩ | ⟨fault, hfault⟩
      · obtain rfl := Except.ok.inj ((htext.load_of_blank hblank).symm.trans h)
        exact .blank htext hblank
      · cases hv : v.isTruthy with
        | false =>
          obtain rfl := Except.ok.inj ((hvalue.load_of_false hv).symm.trans h)
          by_cases hn : v = .null
          · subst hn
            exact .null hvalue
          · by_cases hm : ∃ pairs, v = .map pairs
            · obtain ⟨pairs, rfl⟩ := hm
              exact .mapping hvalue (hvalue.load_of_map.1 h)
            · exact .hollow hvalue (Value.hollow_iff.2 ⟨hv, hn, fun pairs he => hm ⟨pairs, he⟩⟩)
        | true =>
          by_cases hm : ∃ pairs, v = .map pairs
          · obtain ⟨pairs, rfl⟩ := hm
            exact .mapping hvalue (hvalue.load_of_map.1 h)
          · rw [hvalue.load_of_true hv fun pairs he => hm ⟨pairs, he⟩] at h
            cases h
      · rw [readFile, hfault] at hread
        cases hread
  · intro h
    cases h with
    | missing hfile hmissing => simp only [load, hfile, hmissing]
    | blank htext hblank => exact htext.load_of_blank hblank
    | null hvalue => exact hvalue.load_of_false rfl
    | hollow hvalue hhollow => exact hvalue.load_of_false (Value.hollow_iff.1 hhollow).1
    | mapping hvalue hdescribes => exact hvalue.load_of_map.2 hdescribes

/-- A value that is no mapping and not null is refused exactly if it is not hollow. Settings are
read from a mapping, and are the usual ones for a missing file, a file without a document and a
hollow value. -/
theorem mapping_or_hollow (host : Host) (p : Path) :
    (∀ file v, HoldsValue host p file v → v ≠ .null → (∀ pairs, v ≠ .map pairs) →
      (load host p = .error (.notMapping file.name) ↔ ¬ v.Hollow) ∧
        (v.Hollow → load host p = .ok (usual file.parent))) ∧
      ∀ c, load host p = .ok c ↔ Configures host p c := by
  refine ⟨?_, fun c => load_eq_ok_iff⟩
  intro file v h hn hm
  exact h.load_iff_hollow hn hm

section Lists

open CommandLine (hostWith)

def listLength? (cs : List Char) : Option Nat :=
  match Yaml.load depth cs with
  | .ok (.list items) => some items.length
  | _ => none

theorem listLength?_eq_some (cs : List Char) {n : Nat} (h : listLength? cs = some n) :
    ∃ items, Yaml.load depth cs = .ok (.list items) ∧ items.length = n := by
  unfold listLength? at h
  split at h
  · rename_i items hload
    exact ⟨items, hload, Option.some.inj h⟩
  · cases h

def topFile : Path := .ofLocation [fileName]

theorem holdsValue_top {bytes : List UInt8} (hcs : Text.decodeUtf8 bytes = some cs)
    (hlines : Text.unifyNewlines cs = cs) (hblank : cs.all Text.isBlank = false)
    (hload : Yaml.load depth cs = .ok v) :
    HoldsValue (hostWith bytes) (.ofText "/") topFile v := by
  have hfound : filePath (hostWith bytes) (.ofText "/") = .ok topFile := by
    rfl
  have hread : (hostWith bytes).tree.read (hostWith bytes).workingDirectory topFile = .ok bytes := by
    rfl
  exact ⟨cs, ⟨hfound, rfl, bytes, cs, hread, hcs, hlines⟩, hblank, hload⟩

theorem mapping_or_hollow_list :
    ∃ v, HoldsValue (hostWith (Text.utf8Bytes "[a]")) (.ofText "/") topFile v ∧ ¬ v.Hollow ∧
      load (hostWith (Text.utf8Bytes "[a]")) (.ofText "/") = .error (.notMapping ".scrtask.yml") := by
  obtain ⟨items, hload, hlength⟩ := listLength?_eq_some "[a]".toList (n := 1) (by decide +kernel)
  have hheld : HoldsValue (hostWith (Text.utf8Bytes "[a]")) (.ofText "/") topFile (.list items) :=
    holdsValue_top (by decide +kernel) (by decide) (by decide) hload
  have hfull : ¬ (Value.list items).Hollow := by
    rintro ⟨⟩
    cases hlength
  obtain ⟨hrefused, -⟩ := (mapping_or_hollow _ _).1 _ _ hheld (by simp) (by simp)
  exact ⟨_, hheld, hfull, hrefused.2 hfull⟩

/-- An empty list is no mapping and not null, and gives the usual settings. -/
theorem empty_list_configures :
    HoldsValue (hostWith (Text.utf8Bytes "[]")) (.ofText "/") topFile (.list []) ∧
      load (hostWith (Text.utf8Bytes "[]")) (.ofText "/") = .ok (usual (.ofText "/")) := by
  obtain ⟨items, hload, hlength⟩ := listLength?_eq_some "[]".toList (n := 0) (by decide +kernel)
  obtain rfl := List.eq_nil_of_length_eq_zero hlength
  have hheld : HoldsValue (hostWith (Text.utf8Bytes "[]")) (.ofText "/") topFile (.list []) :=
    holdsValue_top (by decide +kernel) (by decide) (by decide) hload
  exact ⟨hheld, hheld.load_of_false rfl⟩

end Lists

end Settings

end ComponentBuild
