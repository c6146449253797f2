import ComponentBuild.Proofs.Properties
import ComponentBuild.Proofs.Settings.Read

namespace ComponentBuild.Settings

section Kept

variable {α β : Type} {R : α → β → Prop} {f : α → Option β}

inductive Kept (R : α → β → Prop) : List α → List β → Prop
  | nil : Kept R [] []
  | keep {x : α} {y : β} {xs : List α} {ys : List β} : R x y → Kept R xs ys →
      Kept R (x :: xs) (y :: ys)
  | drop {x : α} {xs : List α} {ys : List β} : (∀ y, ¬ R x y) → Kept R xs ys → Kept R (x :: xs) ys

theorem kept_of_forall₂ {xs : List α} {ys : List (Option β)}
    (h : List.Forall₂ (fun x o => ∀ y, R x y ↔ o = some y) xs ys) :
    Kept R xs (ys.filterMap id) := by
  induction h with
  | nil => exact .nil
  | @cons x o xs ys hx _ ih =>
    cases o with
    | none =>
      apply Kept.drop _ ih
      intro y hy
      cases (hx y).1 hy
    | some y => exact .keep ((hx y).2 rfl) ih

end Kept

inductive Says : Value → String → Prop
  | text (s : String) : Says (.text s) s
  | truth (b : Bool) : Says (.bool b) (Value.boolText b)
  | whole (i : Int) : Says (.int i) (toString i)
  | decimal (x : Float) : Says (.float x) (Decimal.text x)

inductive SaysFlag : Value → Bool → Prop
  | truth (b : Bool) : SaysFlag (.bool b) b
  | yes {s : String} : Text.lower (Text.trim s) ∈ ["true", "yes", "on", "1"] →
      SaysFlag (.text s) true
  | no {s : String} : Text.lower (Text.trim s) ∈ ["false", "no", "off", "0"] →
      SaysFlag (.text s) false

inductive SaysList : Value → List String → Prop
  | single (s : String) : SaysList (.text s) [s]
  | list {items : List Value} {texts : List String} : Kept Says items texts →
      SaysList (.list items) texts
  | bytes (bs : List UInt8) : SaysList (.binary bs) (bs.map fun b => toString b.toNat)
  | none {v : Value} : (∀ s, v ≠ .text s) → (∀ items, v ≠ .list items) → (∀ bs, v ≠ .binary bs) →
      SaysList v []

def SaysPair (pair : Value × Value) (property : String × String) : Prop :=
  property.1 = pair.1.display ∧ Says pair.2 property.2

inductive SaysPairs : Value → List (String × String) → Prop
  | map {pairs : List (Value × Value)} {properties : List (String × String)} :
      Kept SaysPair pairs properties → SaysPairs (.map pairs) properties
  | none {v : Value} : (∀ pairs, v ≠ .map pairs) → SaysPairs v []

variable {v : Value} {b : Bool}

theorem intText_eq_some {i : Int} {s : String} (h : Decimal.intText i = .ok s) : s = toString i := by
  unfold Decimal.intText at h
  split at h
  · exact (Except.ok.inj h).symm
  · cases h

theorem says_of_scalarText? {o : Option String} (h : v.scalarText? = .ok o) (s : String) :
    Says v s ↔ o = some s := by
  cases v with
  | int i =>
    rw [Value.scalarText?] at h
    obtain ⟨t, ht, rfl⟩ := map_eq_ok.1 h
    rw [intText_eq_some ht, Option.some.injEq]
    constructor
    · intro hs
      cases hs
      rfl
    · rintro rfl
      exact .whole i
  | _ =>
    obtain rfl := Except.ok.inj h
    constructor
    · intro hs
      cases hs <;> rfl
    · intro ho
      cases ho <;> constructor

theorem says_iff {o : Option String} (h : asText? v = .ok o) (s : String) :
    Says v s ↔ o = some s := by
  unfold asText? at h
  split at h
  · rename_i found hfound
    obtain rfl := Except.ok.inj h
    exact says_of_scalarText? hfound s
  · cases h

theorem lookup_truthWords {s : String} :
    truthWords.lookup s = some b ↔
      s ∈ (if b then ["true", "yes", "on", "1"] else ["false", "no", "off", "0"]) := by
  have hwords : (truthWords.map Prod.fst).Nodup := by decide
  rw [Properties.lookup_eq_some_of_nodup hwords]
  cases b <;> simp [truthWords]

theorem saysFlag_iff : SaysFlag v b ↔ asBool? v = some b := by
  constructor
  · intro h
    cases h with
    | truth b => rfl
    | yes h =>
      rw [asBool?]
      exact lookup_truthWords.2 h
    | no h =>
      rw [asBool?]
      exact lookup_truthWords.2 h
  · intro h
    cases v with
    | bool c =>
      rw [asBool?] at h
      obtain rfl := Option.some.inj h
      exact .truth c
    | text s =>
      rw [asBool?] at h
      have hword := lookup_truthWords.1 h
      cases b with
      | true => exact .yes hword
      | false => exact .no hword
    | _ => cases h

theorem saysList_of_asTexts {texts : List String} (h : asTexts v = .ok texts) :
    SaysList v texts := by
  cases v with
  | text s =>
    obtain rfl := Except.ok.inj h
    exact .single s
  | list items =>
    obtain ⟨found, hfound, rfl⟩ := map_eq_ok.1 h
    have heach := (mapM_eq_ok.1 hfound).imp fun _ _ => says_iff
    exact .list (kept_of_forall₂ heach)
  | binary bs =>
    obtain rfl := Except.ok.inj h
    exact .bytes bs
  | _ =>
    obtain rfl := Except.ok.inj h
    apply SaysList.none <;> nofun

theorem keyText_eq_ok {k : Value} {name : String} (h : k.keyText = .ok name) : name = k.display := by
  cases k with
  | int i => exact intText_eq_some h
  | _ => exact (Except.ok.inj h).symm

theorem not_says_of_isScalar (h : v.isScalar = false) (s : String) : ¬ Says v s := by
  intro hs
  cases hs <;> cases h

theorem saysPair_iff {pair : Value × Value} {o : Option (String × String)}
    (h : asProperty? pair = .ok o) (property : String × String) :
    SaysPair pair property ↔ o = some property := by
  obtain ⟨name, s⟩ := property
  unfold asProperty? at h
  split at h
  · rename_i hscalar
    obtain rfl := Except.ok.inj h
    have hno := not_says_of_isScalar (by simpa using hscalar) s
    simp [SaysPair, hno]
  · split at h
    · cases h
    · rename_i key hkey
      obtain ⟨found, hfound, rfl⟩ := map_eq_ok.1 h
      rw [SaysPair, says_iff hfound, ← keyText_eq_ok hkey]
      cases found <;> simp [eq_comm]

theorem saysPairs_of_asProperties {properties : Properties} (h : asProperties v = .ok properties) :
    ∃ found, SaysPairs v found ∧ properties = .ofPairs found := by
  cases v with
  | map pairs =>
    obtain ⟨found, hfound, rfl⟩ := map_eq_ok.1 h
    have heach := (mapM_eq_ok.1 hfound).imp fun _ _ => saysPair_iff
    exact ⟨_, .map (kept_of_forall₂ heach), rfl⟩
  | _ =>
    obtain rfl := Except.ok.inj h
    refine ⟨[], ?_, rfl⟩
    apply SaysPairs.none
    nofun

end ComponentBuild.Settings
