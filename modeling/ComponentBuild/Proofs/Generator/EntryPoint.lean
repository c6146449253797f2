import ComponentBuild.Proofs.Generator.Choice
import Mathlib.Data.List.TakeWhile

namespace ComponentBuild

namespace Text

variable {c : Char}

def blankCodes : List Nat :=
  [9, 10, 11, 12, 13, 28, 29, 30, 31, 32, 0x85, 0xA0, 0x1680, 0x2000, 0x2001, 0x2002, 0x2003, 0x2004,
    0x2005, 0x2006, 0x2007, 0x2008, 0x2009, 0x200A, 0x2028, 0x2029, 0x202F, 0x205F, 0x3000]

theorem mem_blankCodes_of_isBlank (h : isBlank c = true) : c.toNat ∈ blankCodes := by
  simp only [isBlank, Bool.or_eq_true, Bool.and_eq_true, decide_eq_true_eq, beq_iff_eq] at h
  simp only [blankCodes, List.mem_cons, List.not_mem_nil, or_false]
  omega

theorem isWordChar_of_isBlank (h : isBlank c = true) : isWordChar c = false := by
  have hall : ∀ n ∈ blankCodes, isWordChar (Char.ofNat n) = false := by decide +kernel
  rw [← Char.ofNat_toNat c]
  exact hall _ (mem_blankCodes_of_isBlank h)

end Text

theorem Refers.unique {module way m w : String} (hmark : ':' ∉ module.toList)
    (h : Refers (module ++ ":" ++ way) m w) : m = module ∧ w = way := by
  have hcut : Text.cut? ':' (module ++ ":" ++ way).toList = some (module.toList, way.toList) := by
    rw [Text.cut?_eq_some]
    exact ⟨by simp, hmark⟩
  have hcut' : Text.cut? ':' (module ++ ":" ++ way).toList = some (m.toList, w.toList) := by
    rw [Text.cut?_eq_some]
    exact ⟨by simp [h.text], h.unmarked⟩
  obtain ⟨hm, hw⟩ := Prod.mk.inj (Option.some.inj (hcut'.symm.trans hcut))
  exact ⟨String.toList_injective hm, String.toList_injective hw⟩

namespace Registry

variable {r r' : Registry} {name module way : String} {o : Object} {log : Option TaskLog}

/-- A module and a way through its attributes in words and dots, none of the attributes empty. -/
structure Worded (module way : String) : Prop where
  module_chars : ∀ c ∈ module.toList, c = '.' ∨ Text.isWordChar c = true
  way_chars : ∀ c ∈ way.toList, c = '.' ∨ Text.isWordChar c = true
  no_empty : "" ∉ Text.split '.' way

theorem isReferenceChar_iff {c : Char} :
    isReferenceChar c = true ↔ c = '.' ∨ Text.isWordChar c = true := by
  simp [isReferenceChar]

theorem isBlank_of_isReferenceChar {c : Char} (h : isReferenceChar c = true) :
    Text.isBlank c = false := by
  rw [← Bool.not_eq_true]
  intro hblank
  rcases isReferenceChar_iff.1 h with rfl | hword
  · cases hblank
  · rw [Text.isWordChar_of_isBlank hblank] at hword
    cases hword

theorem trimStart_of_isReferenceChar {cs : List Char} (h : ∀ c ∈ cs, isReferenceChar c = true) :
    Text.trimStart cs = cs := by
  cases cs with
  | nil => rfl
  | cons c cs => exact Text.trimStart_of_head (isBlank_of_isReferenceChar (h c (by simp)))

theorem takeWhile_isReferenceChar {cs : List Char} (h : ∀ c ∈ cs, isReferenceChar c = true)
    (rest : List Char) : (cs ++ ':' :: rest).takeWhile isReferenceChar = cs := by
  have hmark : isReferenceChar ':' = false := by decide
  rw [List.takeWhile_append_of_pos h, List.takeWhile_cons_of_neg (by simp [hmark]), List.append_nil]

theorem dropWhile_isReferenceChar {cs : List Char} (h : ∀ c ∈ cs, isReferenceChar c = true)
    (rest : List Char) : (cs ++ ':' :: rest).dropWhile isReferenceChar = ':' :: rest := by
  have hmark : isReferenceChar ':' = false := by decide
  rw [List.dropWhile_append_of_pos h, List.dropWhile_cons_of_neg (by simp [hmark])]

namespace Worded

theorem of_all (hmodule : module.toList.all isReferenceChar = true)
    (hway : way.toList.all isReferenceChar = true) (h : "" ∉ Text.split '.' way) :
    Worded module way := by
  refine ⟨?_, ?_, h⟩
  · intro c hc
    exact isReferenceChar_iff.1 (List.all_eq_true.1 hmodule c hc)
  · intro c hc
    exact isReferenceChar_iff.1 (List.all_eq_true.1 hway c hc)

theorem way_ne_empty (h : Worded module way) : way ≠ "" := by
  rintro rfl
  exact h.no_empty (by decide)

theorem unmarked (h : Worded module way) : ':' ∉ module.toList := by
  intro hmem
  rcases h.module_chars ':' hmem with hdot | hword
  · cases hdot
  · exact absurd hword (by decide)

theorem filter_split (h : Worded module way) :
    (Text.split '.' way).filter (· ≠ "") = Text.split '.' way := by
  apply List.filter_eq_self.2
  intro name hname
  have hne : name ≠ "" := fun he => h.no_empty (he ▸ hname)
  simpa using hne

end Worded

theorem cutValue?_eq (h : Worded module way) : cutValue? (module ++ ":" ++ way) =
    if module = "" then none else some (module, Text.split '.' way) := by
  have hmodule : ∀ c ∈ module.toList, isReferenceChar c = true := by
    intro c hc
    exact isReferenceChar_iff.2 (h.module_chars c hc)
  have hway : ∀ c ∈ way.toList, isReferenceChar c = true := by
    intro c hc
    exact isReferenceChar_iff.2 (h.way_chars c hc)
  have hchars : (module ++ ":" ++ way).toList = module.toList ++ ':' :: way.toList := by simp
  have hmark : Text.trimStart (':' :: way.toList) = ':' :: way.toList :=
    Text.trimStart_of_head (by decide)
  have hmore : endsValue (':' :: way.toList) = false := rfl
  have hall : way.toList.takeWhile isReferenceChar = way.toList := List.takeWhile_eq_self_iff.2 hway
  have hnone : way.toList.dropWhile isReferenceChar = [] := List.dropWhile_eq_nil_iff.2 hway
  have hend : endsValue (Text.trimStart []) = true := rfl
  unfold cutValue?
  -- The way is taken up to its end, so that nothing is left for extras.
  simp only [hchars, takeWhile_isReferenceChar hmodule, dropWhile_isReferenceChar hmodule, hmark,
    hmore, trimStart_of_isReferenceChar hway, hall, hnone, hend, String.ofList_toList,
    h.filter_split]
  by_cases hm : module = ""
  · simp [hm]
  · simp [hm, h.way_ne_empty]

theorem loadEntryPoint_eq_ok (h : Worded module way) :
    r.loadEntryPoint (module ++ ":" ++ way) = .ok o ↔ r.Denotes (module ++ ":" ++ way) o := by
  rw [loadEntryPoint, cutValue?_eq h]
  constructor
  · intro hload
    by_cases hm : module = ""
    · rw [if_pos hm] at hload
      cases hload
    · rw [if_neg hm] at hload
      have hrefers : Refers (module ++ ":" ++ way) module way :=
        ⟨rfl, hm, h.way_ne_empty, h.unmarked⟩
      dsimp only at hload
      split at hload
      · cases hload
      · rename_i start himport
        split at hload
        · rename_i found hwalk
          obtain rfl := Except.ok.inj hload
          exact ⟨module, way, start, hrefers, himport, Object.walk_eq_ok.1 hwalk⟩
        · cases hload
  · rintro ⟨m, w, start, hrefers, himport, hleads⟩
    obtain ⟨rfl, rfl⟩ := hrefers.unique h.unmarked
    rw [if_neg hrefers.module_ne_empty]
    simp only [himport, Object.walk_eq_ok.2 hleads]

/-- A reference and the only entry point that say the same come to the same object of the same
modules. So one of them gives a generator exactly if the other does. It is the object itself, or made
by calling its factory, with the log exactly if the factory takes it. -/
theorem routes_load_alike (log : Option TaskLog) (h : Worded module way)
    (hmodules : r'.modules = r.modules)
    (hinstalled : r'.installed = [⟨name, module ++ ":" ++ way, generatorGroup⟩]) :
    (∀ l, r.load (some (module ++ ":" ++ way)) log = .ok l ↔ r'.load none log = .ok l) ∧
      (∀ o, r.resolveReference (module ++ ":" ++ way) = .ok o ↔
        r'.loadEntryPoint (module ++ ":" ++ way) = .ok o) ∧
      ∀ l, r.load (some (module ++ ":" ++ way)) log = .ok l ↔
        ∃ o, r.resolveReference (module ++ ":" ++ way) = .ok o ∧ o.Provides log l := by
  have hvalue : module ++ ":" ++ way ≠ "" := by
    intro he
    have hchars := congrArg String.toList he
    simp at hchars
  have hobject (o : Object) : r'.loadEntryPoint (module ++ ":" ++ way) = .ok o ↔
      r.Denotes (module ++ ":" ++ way) o := by
    rw [loadEntryPoint_congr hmodules, loadEntryPoint_eq_ok h]
  refine ⟨fun l => ?_, fun o => ?_, fun l => ?_⟩
  · rw [load_reference_eq_ok hvalue, load_installed_eq_ok, hinstalled]
    constructor
    · rintro ⟨o, ho, hl⟩
      exact ⟨_, o, rfl, (hobject o).2 ho, hl⟩
    · rintro ⟨e, o, he, ho, hl⟩
      obtain rfl := List.head_eq_of_cons_eq he
      exact ⟨o, (hobject o).1 ho, hl⟩
  · rw [resolveReference_eq_ok, hobject]
  · simp only [load_reference_eq_ok hvalue, resolveReference_eq_ok]

def installedKit : Registry :=
  { kitRegistry with
    entryPoints := [⟨"kit", "kit:tools", "console_scripts"⟩, ⟨"maker", "kit:tools.make", generatorGroup⟩] }

theorem worded_kit : Worded "kit" "tools.make" :=
  .of_all (by decide) (by decide) (by decide)

theorem routes_load_alike_kit : Worded "kit" "tools.make" ∧
    installedKit.modules = kitRegistry.modules ∧
    installedKit.installed = [⟨"maker", "kit:tools.make", generatorGroup⟩] ∧
    kitRegistry.load (some "kit:tools.make") none =
      .ok (.made ⟨"Quiet", fun _ _ host => ⟨host.tree, [], none⟩⟩ (.log none)) ∧
    installedKit.load none none =
      .ok (.made ⟨"Quiet", fun _ _ host => ⟨host.tree, [], none⟩⟩ (.log none)) := by
  have hinstalled : installedKit.installed = [⟨"maker", "kit:tools.make", generatorGroup⟩] := by rfl
  have hobject : kitRegistry.resolveReference "kit:tools.make" =
      .ok (makerObject ["log"] ["log"]) := resolveReference_eq_ok.2 denotes_kit
  obtain ⟨halike, -, hload⟩ := routes_load_alike none worded_kit rfl hinstalled
  have hkit := (hload _).2 ⟨_, hobject, provides_kit⟩
  exact ⟨worded_kit, rfl, hinstalled, hkit, (halike _).1 hkit⟩

end Registry

end ComponentBuild
