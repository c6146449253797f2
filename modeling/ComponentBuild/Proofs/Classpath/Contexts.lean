import ComponentBuild.Proofs.Classpath.Existing

namespace ComponentBuild.ClassContexts

def count (cs : ClassContexts) : Nat := cs.newestFirst.length

variable {cs : ClassContexts} {id : Nat}

theorem get?_cons (c : ClassContext) (older : List ClassContext) (id : Nat) :
    get? ⟨c :: older⟩ id = if id = older.length then some c else get? ⟨older⟩ id := by
  simp only [get?, List.reverse_cons]
  have hlen : older.reverse.length = older.length := List.length_reverse
  rcases Nat.lt_trichotomy id older.length with hlt | heq | hgt
  · rw [List.getElem?_append_left (by omega), if_neg (by omega)]
  · subst heq
    rw [List.getElem?_append_right (by omega), if_pos rfl, hlen]
    simp
  · have hnone : older.reverse[id]? = none := List.getElem?_eq_none (by omega)
    rw [List.getElem?_append_right (by omega), if_neg (by omega), hnone]
    apply List.getElem?_eq_none
    simp only [List.length_singleton]
    omega

theorem get?_eq_none_iff : cs.get? id = none ↔ cs.count ≤ id := by
  simp [get?, count]

@[simp] theorem count_make (cs : ClassContexts) (locations : List Path) (parent : Option Nat) :
    (cs.make locations parent).1.count = cs.count + 1 := rfl

@[simp] theorem count_close (cs : ClassContexts) (id : Nat) : (cs.close id).count = cs.count :=
  length_closeIn cs.newestFirst id

theorem get?_make_of_ne (locations : List Path) (parent : Option Nat) (h : id ≠ cs.count) :
    (cs.make locations parent).1.get? id = cs.get? id := by
  have hnewest : id ≠ cs.newestFirst.length := h
  rw [make, get?_cons, if_neg hnewest]

theorem get?_close (cs : ClassContexts) (id j : Nat) :
    (cs.close id).get? j = if j = id then (cs.get? j).map fun _ => .close else cs.get? j := by
  obtain ⟨newestFirst⟩ := cs
  induction newestFirst with
  | nil => simp [close, closeIn, get?]
  | cons c older ih =>
    simp only [close, closeIn] at ih ⊢
    by_cases hid : id = older.length
    · rw [if_pos hid]
      by_cases hj : j = id
      · simp [get?_cons, hj, hid]
      · simp [get?_cons, hj, hid ▸ hj]
    · rw [if_neg hid, get?_cons, length_closeIn, ih, get?_cons]
      by_cases hj : j = older.length
      · have hne : j ≠ id := by omega
        simp [hj, hj ▸ hne]
      · simp [hj]

theorem get?_close_self {c : ClassContext} (h : cs.get? id = some c) :
    (cs.close id).get? id = some .close := by
  rw [get?_close, if_pos rfl, h]
  rfl

theorem searchPath_eq {c : ClassContext} (h : cs.get? id = some c)
    (hparent : ∀ p, c.parent = some p → p < id) :
    cs.searchPath id = if c.closed then .error .closed
      else match c.parent with
        | none => .ok (c.extend [])
        | some parent => (cs.searchPath parent).map c.extend := by
  obtain ⟨newestFirst⟩ := cs
  induction newestFirst with
  | nil => cases h
  | cons newest older ih =>
    rw [get?_cons] at h
    have hbelow {j : Nat} (hj : j < older.length) :
        searchPath ⟨newest :: older⟩ j = searchPath ⟨older⟩ j := if_neg (Nat.ne_of_lt hj)
    by_cases hid : id = older.length
    · rw [if_pos hid] at h
      obtain rfl := Option.some.inj h
      rw [searchPath, searchIn, if_pos hid]
      cases hp : newest.parent with
      | none => rfl
      | some parent =>
        have hlt := hparent parent hp
        simp only [hbelow (hid ▸ hlt)]
        rfl
    · rw [if_neg hid] at h
      have hcount : id < older.length := by
        rw [← Nat.not_le]
        intro hle
        have hnone : get? ⟨older⟩ id = none := get?_eq_none_iff.2 hle
        rw [hnone] at h
        cases h
      rw [hbelow hcount, ih h]
      cases hp : c.parent with
      | none => rfl
      | some parent =>
        have hlt := hparent parent hp
        simp only [hbelow (Nat.lt_trans hlt hcount)]

theorem searchPath_closed (h : cs.get? id = some .close) :
    cs.searchPath id = .error .closed :=
  searchPath_eq h nofun

theorem searchPath_top {locations : List Path} (h : cs.get? id = some ⟨locations, none, false⟩) :
    cs.searchPath id = .ok (ClassContext.extend ⟨locations, none, false⟩ []) :=
  searchPath_eq h nofun

theorem searchPath_under {locations : List Path} {parent : Nat}
    (h : cs.get? id = some ⟨locations, some parent, false⟩) (hlt : parent < id) :
    cs.searchPath id = (cs.searchPath parent).map fun inherited =>
      inherited ++ locations.filter (· ∉ inherited) := by
  apply searchPath_eq h
  rintro p ⟨⟩
  exact hlt

theorem searchPath_make_top (cs : ClassContexts) (locations : List Path) :
    (cs.make locations none).1.searchPath (cs.make locations none).2 = .ok locations := by
  simp [make, searchPath, searchIn, ClassContext.extend]

theorem searchPath_make_below (cs : ClassContexts) (locations : List Path) (parent : Nat) :
    (cs.make locations (some parent)).1.searchPath (cs.make locations (some parent)).2 =
      (cs.searchPath parent).map fun inherited =>
        inherited ++ locations.filter (· ∉ inherited) := by
  simp only [make, searchPath, searchIn, if_true, Bool.false_eq_true, if_false]
  rfl

end ComponentBuild.ClassContexts
