import ComponentBuild.Proofs.Generator.Provided

/-!
Generators that are referred to. A reference denotes an object if its module can be imported and
has the attributes on the way. Then the generator is what the object provides. A reference that is
no good is refused as a fault of the configuration, but for two kinds: a relative module name, and
an object that raises an error when it is called.
-/

namespace ComponentBuild

structure Refers (reference module way : String) : Prop where
  text : reference = module ++ ":" ++ way
  module_ne_empty : module ≠ ""
  way_ne_empty : way ≠ ""
  unmarked : ':' ∉ module.toList

def RefersRelatively (reference : String) : Prop :=
  ∃ module way, Refers reference module way ∧ module.toList.head? = some '.'

theorem Refers.ne_empty {s module way : String} (h : Refers s module way) : s ≠ "" := by
  rintro rfl
  have hchars := congrArg String.toList h.text
  simp at hchars

inductive Object.Leads : Object → List String → Object → Prop
  | here (o : Object) : o.Leads [] o
  | step {o next last : Object} {name : String} {names : List String} :
      o.attributes.lookup name = some next → next.Leads names last → o.Leads (name :: names) last

theorem Object.walk_eq_ok {o last : Object} {names : List String} :
    o.walk names = .ok last ↔ o.Leads names last := by
  induction names generalizing o with
  | nil =>
    constructor
    · intro h
      obtain rfl := Except.ok.inj h
      exact .here o
    · intro h
      cases h
      rfl
  | cons name names ih =>
    rw [walk]
    constructor
    · intro h
      split at h
      · rename_i next hnext
        exact .step hnext (ih.1 h)
      · cases h
    · intro h
      cases h with
      | step hnext hlast =>
        rw [hnext]
        exact ih.2 hlast

namespace Registry

variable {r : Registry} {s module way : String} {o start : Object} {log : Option TaskLog}
  {l : Loaded} {e : Thrown} {fault : GeneratorFault}

def Denotes (r : Registry) (reference : String) (o : Object) : Prop :=
  ∃ module way start, Refers reference module way ∧ r.importModule module = .ok start ∧
    start.Leads (Text.split '.' way) o

inductive Refuses (r : Registry) (reference : String) (log : Option TaskLog) :
    GeneratorFault → Prop
  | form : (∀ module way, ¬ Refers reference module way) →
      r.Refuses reference log (.badReference reference)
  | module {module way : String} {fault : ImportFault} : Refers reference module way →
      module.toList.head? ≠ some '.' → r.importModule module = .error fault →
      r.Refuses reference log (.unimportable module fault)
  | missing {module way : String} {start : Object} : Refers reference module way →
      r.importModule module = .ok start → (∀ o, ¬ start.Leads (Text.split '.' way) o) →
      r.Refuses reference log (.notFound reference)
  | object {o : Object} : r.Denotes reference o → (∀ l, ¬ o.Provides log l) →
      (∀ e, ¬ o.Raises log e) → r.Refuses reference log (.notGenerator reference)

theorem cutReference?_eq_some : cutReference? s = some (module, way) ↔ Refers s module way := by
  unfold cutReference?
  constructor
  · intro h
    split at h
    · rename_i c cs d ds hcut
      obtain ⟨rfl, rfl⟩ := Prod.mk.inj (Option.some.inj h)
      obtain ⟨hchars, hmark⟩ := Text.cut?_eq_some.1 hcut
      refine ⟨?_, by simp, by simp, by simpa using hmark⟩
      apply String.toList_injective
      simpa using hchars
    · cases h
  · intro h
    have hcut : Text.cut? ':' s.toList = some (module.toList, way.toList) := by
      rw [Text.cut?_eq_some]
      exact ⟨by simp [h.text], h.unmarked⟩
    have hmodule : module.toList ≠ [] := by simpa using h.module_ne_empty
    have hway : way.toList ≠ [] := by simpa using h.way_ne_empty
    obtain ⟨c, cs, hc⟩ := List.exists_cons_of_ne_nil hmodule
    obtain ⟨d, ds, hd⟩ := List.exists_cons_of_ne_nil hway
    rw [hcut, hc, hd]
    simp only [← hc, ← hd, String.ofList_toList]

theorem importParts_ne_relative {parent : Option (String × Object)} {parts : List String}
    {m : String} : r.importParts parent parts ≠ .error (.relative m) := by
  induction parts generalizing parent with
  | nil =>
    cases parent with
    | none => simp [importParts]
    | some above => simp [importParts]
  | cons part parts ih =>
    cases parent with
    | none =>
      simp only [importParts]
      split
      · exact ih
      · simp
    | some above =>
      simp only [importParts]
      split
      · exact ih
      · split <;> simp

theorem importModule_eq_relative {m : String} :
    r.importModule module = .error (.relative m) ↔
      module.toList.head? = some '.' ∧ m = module := by
  unfold importModule
  split
  · rename_i h
    simp [h, eq_comm]
  · rename_i h
    simp [h, importParts_ne_relative]

theorem isPackage_congr {r' : Registry} (h : r'.modules = r.modules) (name : String) :
    r'.isPackage name = r.isPackage name := by
  rw [isPackage, isPackage, h]

theorem importParts_congr {r' : Registry} (h : r'.modules = r.modules)
    (parent : Option (String × Object)) (parts : List String) :
    r'.importParts parent parts = r.importParts parent parts := by
  induction parts generalizing parent with
  | nil => cases parent <;> rfl
  | cons part parts ih => cases parent <;> simp only [importParts, h, isPackage_congr h, ih]

theorem importModule_congr {r' : Registry} (h : r'.modules = r.modules) (module : String) :
    r'.importModule module = r.importModule module := by
  rw [importModule, importModule, importParts_congr h]

theorem resolveReference_of_refers (h : Refers s module way) : r.resolveReference s =
    match r.importModule module with
    | .error (.relative m) => .error (.relativeImport (.relative m))
    | .error fault => .error (.configuration (.unimportable module fault))
    | .ok o =>
      match o.walk (Text.split '.' way) with
      | .ok o' => .ok o'
      | .error _ => .error (.configuration (.notFound s)) := by
  rewrite [resolveReference, cutReference?_eq_some.2 h]
  rfl

theorem resolveReference_eq_ok : r.resolveReference s = .ok o ↔ r.Denotes s o := by
  constructor
  · intro h
    match hcut : cutReference? s with
    | none =>
      rw [resolveReference, hcut] at h
      cases h
    | some (module, way) =>
      have hs : Refers s module way := cutReference?_eq_some.1 hcut
      rw [resolveReference_of_refers hs] at h
      split at h
      · cases h
      · cases h
      · rename_i start himport
        split at h
        · rename_i found hwalk
          obtain rfl := Except.ok.inj h
          exact ⟨module, way, start, hs, himport, Object.walk_eq_ok.1 hwalk⟩
        · cases h
  · rintro ⟨module, way, start, hs, himport, hleads⟩
    rw [resolveReference_of_refers hs, himport]
    simp only [Object.walk_eq_ok.2 hleads]

theorem load_reference (h : s ≠ "") : r.load (some s) log =
    match r.resolveReference s with
    | .ok o => coerce o s log
    | .error fault => .error fault := by
  rewrite [load, if_neg h]
  rfl

theorem load_of_denotes (h : r.Denotes s o) : r.load (some s) log = coerce o s log := by
  have hs : s ≠ "" := by
    obtain ⟨module, way, start, hrefers, -⟩ := h
    exact hrefers.ne_empty
  rw [load_reference hs, resolveReference_eq_ok.2 h]

theorem load_of_refersRelatively (h : Refers s module way) (hrel : module.toList.head? = some '.') :
    r.load (some s) log = .error (.relativeImport (.relative module)) := by
  rw [load_reference h.ne_empty, resolveReference_of_refers h,
    importModule_eq_relative.2 ⟨hrel, rfl⟩]

theorem load_of_refuses (hs : s ≠ "") (h : r.Refuses s log fault) :
    r.load (some s) log = .error (.configuration fault) := by
  cases h with
  | form hform =>
    have hcut : cutReference? s = none := by
      rw [Option.eq_none_iff_forall_ne_some]
      rintro ⟨module, way⟩ hcut
      exact hform module way (cutReference?_eq_some.1 hcut)
    rw [load_reference hs, resolveReference, hcut]
  | @module module way fault hrefers hhead himport =>
    rw [load_reference hs, resolveReference_of_refers hrefers, himport]
    cases fault with
    | relative m => exact absurd (importModule_eq_relative.1 himport).1 hhead
    | missing m => rfl
    | notPackage m parent => rfl
  | @missing module way start hrefers himport hleads =>
    have hwalk : ∃ missing, start.walk (Text.split '.' way) = .error missing := by
      cases hw : start.walk (Text.split '.' way) with
      | error missing => exact ⟨missing, rfl⟩
      | ok o => exact absurd (Object.walk_eq_ok.1 hw) (hleads o)
    obtain ⟨missing, hwalk⟩ := hwalk
    rw [load_reference hs, resolveReference_of_refers hrefers, himport]
    simp only [hwalk]
  | object hdenotes hl he =>
    rw [load_of_denotes hdenotes]
    exact coerce_eq_configuration.2 ⟨rfl, hl, he⟩

theorem reference_cases (r : Registry) (s : String) (log : Option TaskLog) :
    RefersRelatively s ∨ (∃ fault, r.Refuses s log fault) ∨ ∃ o, r.Denotes s o := by
  by_cases hform : ∃ module way, Refers s module way
  · obtain ⟨module, way, hs⟩ := hform
    by_cases hhead : module.toList.head? = some '.'
    · exact .inl ⟨module, way, hs, hhead⟩
    · right
      cases himport : r.importModule module with
      | error fault => exact .inl ⟨_, .module hs hhead himport⟩
      | ok start =>
        by_cases hleads : ∃ o, start.Leads (Text.split '.' way) o
        · obtain ⟨o, hleads⟩ := hleads
          exact .inr ⟨o, module, way, start, hs, himport, hleads⟩
        · exact .inl ⟨_, .missing hs himport (not_exists.1 hleads)⟩
  · have hno : ∀ module way, ¬ Refers s module way := by
      intro module way hs
      exact hform ⟨module, way, hs⟩
    exact .inr (.inl ⟨_, .form hno⟩)

def Settles (r : Registry) (reference : String) (log : Option TaskLog) : Prop :=
  (∃ l, r.load (some reference) log = .ok l) ∨
    ∃ fault, r.load (some reference) log = .error (.configuration fault)

theorem load_reference_eq_ok (hs : s ≠ "") :
    r.load (some s) log = .ok l ↔ ∃ o, r.Denotes s o ∧ o.Provides log l := by
  constructor
  · intro h
    rcases r.reference_cases s log with ⟨module, way, hrefers, hrel⟩ | ⟨fault, hfault⟩ | ⟨o, ho⟩
    · rw [load_of_refersRelatively hrefers hrel] at h
      cases h
    · rw [load_of_refuses hs hfault] at h
      cases h
    · rw [load_of_denotes ho] at h
      exact ⟨o, ho, coerce_eq_ok.1 h⟩
  · rintro ⟨o, ho, hl⟩
    rw [load_of_denotes ho]
    exact coerce_of_provides hl

theorem load_reference_eq_configuration (hs : s ≠ "") :
    r.load (some s) log = .error (.configuration fault) ↔ r.Refuses s log fault := by
  constructor
  · intro h
    rcases r.reference_cases s log with ⟨module, way, hrefers, hrel⟩ | ⟨found, hfound⟩ | ⟨o, ho⟩
    · rw [load_of_refersRelatively hrefers hrel] at h
      cases h
    · rw [load_of_refuses hs hfound] at h
      cases h
      exact hfound
    · rw [load_of_denotes ho] at h
      obtain ⟨rfl, hl, he⟩ := coerce_eq_configuration.1 h
      exact .object ho hl he
  · exact load_of_refuses hs

theorem settles_iff (hs : s ≠ "") :
    r.Settles s log ↔ ¬ RefersRelatively s ∧ ∀ o, r.Denotes s o → ∀ e, ¬ o.Raises log e := by
  constructor
  · intro h
    constructor
    · rintro ⟨module, way, hrefers, hrel⟩
      simp [Settles, load_of_refersRelatively hrefers hrel] at h
    · intro o ho e he
      simp [Settles, load_of_denotes ho, coerce_of_raises he] at h
  · rintro ⟨hrel, hraises⟩
    rcases r.reference_cases s log with hrel' | ⟨fault, hfault⟩ | ⟨o, ho⟩
    · exact absurd hrel' hrel
    · exact .inr ⟨fault, load_of_refuses hs hfault⟩
    · rw [Settles, load_of_denotes ho]
      rcases coerce_cases o s log with ⟨l, hl⟩ | ⟨e, he⟩ | hrefused
      · exact .inl ⟨l, coerce_of_provides hl⟩
      · exact absurd he (hraises o ho e)
      · exact .inr ⟨_, hrefused⟩

/-- A reference comes to what its object provides, and the faults of the configuration that it
comes to are those above. It comes to one or the other exactly if its module is no relative name and
a factory that it denotes asks for nothing but the log and returns. -/
theorem reference_settled_iff (r : Registry) (log : Option TaskLog) (hs : s ≠ "") :
    (∀ l, r.load (some s) log = .ok l ↔ ∃ o, r.Denotes s o ∧ o.Provides log l) ∧
      (∀ fault, r.load (some s) log = .error (.configuration fault) ↔ r.Refuses s log fault) ∧
      (r.Settles s log ↔ ¬ RefersRelatively s ∧ ∀ o f, r.Denotes s o → o.MadeBy f →
        f.Callable ∧ ∀ a, f.Handed log a → ∃ made, f.body a = .ok made) := by
  refine ⟨fun l => load_reference_eq_ok hs, fun fault => load_reference_eq_configuration hs, ?_⟩
  rw [settles_iff hs]
  simp only [Object.not_raises_iff]
  constructor
  · rintro ⟨hrel, hmade⟩
    exact ⟨hrel, fun o f ho => hmade o ho f⟩
  · rintro ⟨hrel, hmade⟩
    exact ⟨hrel, fun o ho f => hmade o f ho⟩

section Kit

def quietObject : Object :=
  .mk "'Quiet' object" "Quiet" false (some fun _ _ host => ⟨host.tree, [], none⟩) none []

def makerObject (parameters required : List String) : Object :=
  .mk "'function' object" "function" false none
    (some ⟨"make", some parameters, required, [], fun _ => .ok quietObject⟩) []

def toolsObject : Object :=
  .mk "'Tools' object" "Tools" false none none
    [("make", makerObject ["log"] ["log"]), ("name", makerObject ["name", "log"] ["name"])]

def kitRegistry : Registry :=
  ⟨[("kit", .mk "module 'kit'" "module" false none none [("tools", toolsObject)])], []⟩

theorem refers_kit : Refers "kit:tools.make" "kit" "tools.make" :=
  ⟨by decide, by decide, by decide, by decide⟩

theorem denotes_kit : kitRegistry.Denotes "kit:tools.make" (makerObject ["log"] ["log"]) := by
  have hway : Text.split '.' "tools.make" = ["tools", "make"] := by decide
  refine ⟨"kit", "tools.make", _, refers_kit, rfl, ?_⟩
  rw [hway]
  exact .step rfl (.step rfl (.here _))

theorem provides_kit : (makerObject ["log"] ["log"]).Provides none
    (.made ⟨"Quiet", fun _ _ host => ⟨host.tree, [], none⟩⟩ (.log none)) := by
  have htakes : Factory.TakesLog (α := Object) ⟨"make", some ["log"], ["log"], [], fun _ => .ok quietObject⟩ :=
    ⟨_, rfl, by simp⟩
  refine .made ⟨rfl, .inr rfl⟩ ?_ (.log htakes) rfl rfl
  intro p hp
  exact ⟨by simpa using hp, htakes⟩

theorem reference_settled_kit : "kit:tools.make" ≠ "" ∧ kitRegistry.Settles "kit:tools.make" none ∧
    kitRegistry.load (some "kit:tools.make") none =
      .ok (.made ⟨"Quiet", fun _ _ host => ⟨host.tree, [], none⟩⟩ (.log none)) := by
  have hs : "kit:tools.make" ≠ "" := by decide
  obtain ⟨hok, -, -⟩ := reference_settled_iff kitRegistry none hs
  have hload := (hok _).2 ⟨_, denotes_kit, provides_kit⟩
  exact ⟨hs, .inl ⟨_, hload⟩, hload⟩

/-- A relative module name breaks the search off, and so does a function that asks for a name. -/
theorem reference_breaks_off :
    ¬ kitRegistry.Settles ".kit:tools.make" none ∧ ¬ kitRegistry.Settles "kit:tools.name" none := by
  have hrelative : kitRegistry.load (some ".kit:tools.make") none =
      .error (.relativeImport (.relative ".kit")) := by rfl
  have hasking : kitRegistry.load (some "kit:tools.name") none =
      .error (.thrown (.other ⟨"TypeError", "TypeError"⟩
        "make() missing 1 required positional argument: 'name'")) := by rfl
  constructor
  · simp [Settles, hrelative]
  · simp [Settles, hasking]

end Kit

end Registry

end ComponentBuild
