import ComponentBuild.Classpath.Context
import Mathlib.Data.List.Infix

namespace ComponentBuild.ClassContexts

structure Build where
  locations : List Path
  parent : Option Nat

structure Member where
  id : Nat
  locations : List Path

/-- A context and those it was built under, the outermost first. -/
inductive Lineage (bs : List Build) : Nat → List Member → Prop
  | top {id : Nat} {locations : List Path} : bs[id]? = some ⟨locations, none⟩ →
      Lineage bs id [⟨id, locations⟩]
  | under {id parent : Nat} {locations : List Path} {line : List Member} :
      bs[id]? = some ⟨locations, some parent⟩ → Lineage bs parent line →
      Lineage bs id (line ++ [⟨id, locations⟩])

def Member.extend (found : List Path) (m : Member) : List Path :=
  found ++ m.locations.filter (· ∉ found)

def found (line : List Member) : List Path := line.foldl Member.extend []

section Found

variable {line : List Member}

theorem found_concat (line : List Member) (m : Member) :
    found (line ++ [m]) = found line ++ m.locations.filter (· ∉ found line) := by
  rw [found, List.foldl_append]
  rfl

theorem mem_found {m : Member} (h : m ∈ line) {p : Path} (hp : p ∈ m.locations) :
    p ∈ found line := by
  induction line using List.reverseRecOn with
  | nil => cases h
  | append_singleton line last ih =>
    rw [found_concat, List.mem_append]
    by_cases hmem : p ∈ found line
    · exact .inl hmem
    · rcases List.mem_append.1 h with h | h
      · exact .inl (ih h)
      · obtain rfl := List.mem_singleton.1 h
        right
        rw [List.mem_filter]
        exact ⟨hp, by simpa using hmem⟩

theorem found_nodup (h : ∀ m ∈ line, m.locations.Nodup) : (found line).Nodup := by
  induction line using List.reverseRecOn with
  | nil => exact List.nodup_nil
  | append_singleton line last ih =>
    have hline : (found line).Nodup := by
      apply ih
      intro m hm
      exact h m (List.mem_append_left _ hm)
    have hlast : last.locations.Nodup := h last (by simp)
    rw [found_concat, List.nodup_append]
    refine ⟨hline, hlast.filter _, ?_⟩
    rintro p hp q hq rfl
    have hnew := (List.mem_filter.1 hq).2
    simp [hp] at hnew

end Found

section Lineages

variable {bs : List Build} {id : Nat} {line : List Member}

theorem Lineage.unique {line' : List Member} (h : Lineage bs id line) (h' : Lineage bs id line') :
    line = line' := by
  induction h generalizing line' with
  | top hid =>
    cases h' with
    | top hid' =>
      rw [hid] at hid'
      cases hid'
      rfl
    | under hid' _ =>
      rw [hid] at hid'
      cases hid'
  | under hid _ ih =>
    cases h' with
    | top hid' =>
      rw [hid] at hid'
      cases hid'
    | under hid' hparent =>
      rw [hid] at hid'
      cases hid'
      rw [ih hparent]

theorem Lineage.append (h : Lineage bs id line) (more : List Build) :
    Lineage (bs ++ more) id line := by
  have hkept {j : Nat} {b : Build} (hj : bs[j]? = some b) : (bs ++ more)[j]? = some b := by
    rw [List.getElem?_append_left (List.getElem?_eq_some_iff.1 hj).1, hj]
  induction h with
  | top hid => exact .top (hkept hid)
  | under hid _ ih => exact .under (hkept hid) ih

end Lineages

end ComponentBuild.ClassContexts
