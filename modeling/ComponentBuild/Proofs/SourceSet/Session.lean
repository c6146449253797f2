import ComponentBuild.SourceSet.Cursor

namespace ComponentBuild.Cursor

inductive Event
  | make (s : SourceSet)
  | next (i : Nat)
  | change (t : Tree)

structure Session where
  host : Host
  cursors : List (SourceSet × Cursor)

structure Asked where
  index : Nat
  cursor : Cursor
  tree : Tree
  answer : Except CollectFault (Option SourceFile)

namespace Session

def step (x : Session) : Event → Session × List Asked
  | .make s =>
    match Cursor.make s x.host with
    | .ok c => ({ x with cursors := x.cursors ++ [(s, c)] }, [])
    | .error _ => (x, [])
  | .change t => ({ x with host := { x.host with tree := t } }, [])
  | .next i =>
    match x.cursors[i]? with
    | none => (x, [])
    | some (s, c) =>
      let (c', answer) := c.next s x.host
      ({ x with cursors := x.cursors.set i (s, c') }, [⟨i, c, x.host.tree, answer⟩])

def follow (found : Session × List Asked) (e : Event) : Session × List Asked :=
  let (x, asked) := found.1.step e
  (x, found.2 ++ asked)

def run (host : Host) (events : List Event) : Session × List Asked :=
  events.foldl follow (⟨host, []⟩, [])

end Session

def askedOf (i : Nat) (log : List Asked) : List Asked := log.filter fun a => a.index = i

inductive History (s : SourceSet) (host : Host) (root : Path) : List Asked → Cursor → Prop
  | made : History s host root [] ⟨root, .fresh⟩
  | asked {log a} : History s host root log a.cursor →
      a.answer = (a.cursor.next s { host with tree := a.tree }).2 →
      History s host root (log ++ [a]) (a.cursor.next s { host with tree := a.tree }).1

structure Session.Told (host : Host) (found : Session × List Asked) : Prop where
  place : found.1.host = { host with tree := found.1.host.tree }
  known : ∀ a ∈ found.2, a.index < found.1.cursors.length
  history : ∀ i s c, found.1.cursors[i]? = some (s, c) →
    ∃ t root, s.root { host with tree := t } = .ok root ∧
      History s host root (askedOf i found.2) c

namespace Session

variable {host : Host} {found : Session × List Asked}

theorem told_make (s : SourceSet) (h : Told host found) : Told host (follow found (.make s)) := by
  obtain ⟨x, log⟩ := found
  cases hm : Cursor.make s x.host with
  | error fault => simpa [follow, step, hm] using h
  | ok c =>
    have hf : follow (x, log) (.make s) = ({ x with cursors := x.cursors ++ [(s, c)] }, log) := by
      simp [follow, step, hm]
    rw [hf]
    refine ⟨h.place, ?_, ?_⟩
    · intro a ha
      have hlt : a.index < x.cursors.length := h.known a ha
      rw [List.length_append]
      omega
    · intro i s' c' hi
      rcases Nat.lt_or_ge i x.cursors.length with hlt | hge
      · rw [List.getElem?_append_left hlt] at hi
        exact h.history i s' c' hi
      · obtain ⟨hi0, he⟩ : i = x.cursors.length ∧ (s, c) = (s', c') := by
          rw [List.getElem?_append_right hge] at hi
          obtain ⟨hlt, he⟩ := List.getElem?_eq_some_iff.1 hi
          simp only [List.length_singleton] at hlt
          exact ⟨by omega, by simpa using he⟩
        obtain ⟨rfl, rfl⟩ := Prod.mk.injEq .. ▸ he
        cases hr : s.root x.host with
        | error fault => simp [Cursor.make, hr, Except.map] at hm
        | ok root =>
          obtain rfl : ⟨root, .fresh⟩ = c := by simpa [Cursor.make, hr, Except.map] using hm
          have hnone : askedOf i log = [] := by
            apply List.filter_eq_nil_iff.2
            intro a ha
            have hlt : a.index < x.cursors.length := h.known a ha
            rw [decide_eq_true_eq]
            omega
          refine ⟨x.host.tree, root, h.place ▸ hr, ?_⟩
          simp only [hnone]
          exact .made

theorem told_change (t : Tree) (h : Told host found) : Told host (follow found (.change t)) where
  place := by
    have hplace := h.place
    simp only [follow, step]
    rw [hplace]
  known := by simpa [follow, step] using h.known
  history := by simpa [follow, step] using h.history

theorem told_next (i : Nat) (h : Told host found) : Told host (follow found (.next i)) := by
  obtain ⟨x, log⟩ := found
  cases hx : x.cursors[i]? with
  | none => simpa [follow, step, hx] using h
  | some o =>
    obtain ⟨s, c⟩ := o
    let a : Asked := ⟨i, c, x.host.tree, (c.next s x.host).2⟩
    have hf : follow (x, log) (.next i) =
        ({ x with cursors := x.cursors.set i (s, (c.next s x.host).1) }, log ++ [a]) := by
      simp [follow, step, hx, a]
    obtain ⟨hlt, -⟩ := List.getElem?_eq_some_iff.1 hx
    rw [hf]
    refine ⟨h.place, ?_, ?_⟩
    · intro b hb
      simp only [List.length_set]
      rcases List.mem_append.1 hb with hb | hb
      · exact h.known b hb
      · obtain rfl := List.mem_singleton.1 hb
        exact hlt
    · intro j s' c' hj
      by_cases hij : i = j
      · subst hij
        obtain ⟨rfl, rfl⟩ : s = s' ∧ (c.next s x.host).1 = c' := by
          simpa [List.getElem?_set_self hlt] using hj
        obtain ⟨t, root, hr, hh⟩ := h.history i s c hx
        refine ⟨t, root, hr, ?_⟩
        have hasked : askedOf i (log ++ [a]) = askedOf i log ++ [a] := by
          simp [askedOf, List.filter_append, a]
        have hhost : x.host = { host with tree := a.tree } := h.place
        have hanswer : a.answer = (a.cursor.next s { host with tree := a.tree }).2 := by
          rw [← hhost]
        simp only [hasked]
        rw [hhost]
        exact .asked hh hanswer
      · have hasked : askedOf j (log ++ [a]) = askedOf j log := by
          simp [askedOf, List.filter_append, a, hij]
        simp only [hasked]
        rw [List.getElem?_set_ne hij] at hj
        exact h.history j s' c' hj

theorem run_told (host : Host) (events : List Event) : Told host (run host events) := by
  have hfold (es : List Event) (found : Session × List Asked) (h : Told host found) :
      Told host (es.foldl follow found) := by
    induction es generalizing found with
    | nil => exact h
    | cons e es ih =>
      apply ih
      cases e with
      | make s => exact told_make s h
      | next i => exact told_next i h
      | change t => exact told_change t h
  exact hfold events _ ⟨rfl, by simp, by simp⟩

end Session

end ComponentBuild.Cursor
