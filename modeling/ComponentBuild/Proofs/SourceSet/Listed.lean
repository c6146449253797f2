import ComponentBuild.Proofs.SourceSet.Region

namespace ComponentBuild.Walk

inductive Lists (w : Walk) (s : SourceSet) (t : Tree) (work : List Pending) :
    List Name → Listing → Prop
  | directory {dir d ds rest l} : w.Moves s t work (.directories dir (d :: ds) :: rest) →
      t.isLink (w.root.below dir) d = false →
      t.listing? (w.root.below (dir ++ [d])) = some l → Lists w s t work (dir ++ [d]) l

variable {w : Walk} {s : SourceSet} {t : Tree} {work mid left : List Pending}
  {dir g : List Name} {l : Listing}

theorem Lists.listing (h : w.Lists s t work dir l) : t.listing? (w.root.below dir) = some l := by
  obtain ⟨-, -, hl⟩ := h
  exact hl

theorem Lists.leads (h : w.Lists s t work dir l) : Leads work dir := by
  obtain ⟨hm, -, -⟩ := h
  exact hm.leads ⟨_, List.mem_cons_self, _, List.mem_cons_self, [], rfl⟩

theorem Move.rightUnique : Relator.RightUnique (w.Move s t) := by
  intro a b c hb hc
  cases hb with
  | noFile =>
    cases hc with
    | noFile => rfl
  | unwanted =>
    cases hc with
    | unwanted => rfl
  | noDirectory =>
    cases hc with
    | noDirectory => rfl
  | skipped hs =>
    cases hc with
    | skipped => rfl
    | listed hlink hl =>
      rw [hs hlink] at hl
      cases hl
  | listed hlink hl =>
    cases hc with
    | skipped hs =>
      rw [hs hlink] at hl
      cases hl
    | listed _ hl' => rw [Option.some.inj (hl.symm.trans hl')]

theorem not_move_of_wanted {n : Name} {ns : List Name} {rest : List Pending}
    (h : w.wanted s (dir ++ [n]) = true) : ¬ w.Move s t (.files dir (n :: ns) :: rest) mid := by
  intro hm
  cases hm with
  | unwanted hw =>
    rw [h] at hw
    cases hw

theorem Lists.not_leads (h : w.Lists s t work dir l) (ho : Ordered work)
    (hd : w.Delivers s t work g left) : ¬ Leads left dir := by
  intro hleft
  cases h with
  | @directory dir d ds rest l hm hlink hl =>
  cases hd with
  | @file dir' n ns rest' hm' hw =>
  -- Moves are deterministic, so the listing comes before the delivery or after it.
  rcases Relation.ReflTransGen.total_of_right_unique Move.rightUnique hm hm' with hon | hback
  · obtain he | ⟨next, hnext, hon⟩ := Relation.ReflTransGen.cases_head hon
    · cases he
    · rw [Move.rightUnique hnext (.listed hlink hl)] at hon
      have hdelivers : w.Delivers s t _ _ _ := .file hon hw
      have hlead := hdelivers.leads_left hleft
      have hmid := hm.ordered ho
      rcases leads_append.1 hlead with hlead | hlead
      · obtain ⟨ms, hms, he⟩ := leads_opened hlead
        exact hms (by simpa using he)
      · rcases leads_cons.1 hlead with ⟨e, he, ms, heq⟩ | hlead
        · obtain ⟨rfl, -⟩ : d = e ∧ [] = ms := by simpa using heq
          have hlt := (List.pairwise_cons.1 (hmid.sorted _ List.mem_cons_self)).1 d he
          exact String.lt_irrefl _ hlt
        · obtain ⟨p, hp, hlead⟩ := hlead
          have hfirst : (Pending.directories dir (d :: ds)).Covers (dir ++ [d] ++ [n]) :=
            ⟨d, List.mem_cons_self, [n], by simp, by simp⟩
          have hlater : Covers rest (dir ++ [d] ++ [n]) := ⟨p, hp, hlead.covers n⟩
          exact (hmid.head_before hfirst hlater).irrefl
  · obtain he | ⟨next, hnext, -⟩ := Relation.ReflTransGen.cases_head hback
    · cases he
    · exact not_move_of_wanted hw hnext

def Sourced (w : Walk) (s : SourceSet) (t : Tree) (work : List Pending) (dir : List Name)
    (n : Name) : Prop :=
  (∃ ns, .files dir ns ∈ work ∧ n ∈ ns) ∨ ∃ l, w.Lists s t work dir l ∧ n ∈ l.files

theorem Moves.sourced (h : w.Moves s t work mid) {ns : List Name} {n : Name}
    (hp : .files dir ns ∈ mid) (hn : n ∈ ns) : w.Sourced s t work dir n := by
  induction h generalizing ns with
  | refl => exact .inl ⟨ns, hp, hn⟩
  | tail hms hm ih =>
    cases hm with
    | noFile => exact ih (List.mem_cons_of_mem _ hp) hn
    | @unwanted dir' m ms rest hw =>
      rcases List.mem_cons.1 hp with he | hp
      · cases he
        exact ih List.mem_cons_self (List.mem_cons_of_mem _ hn)
      · exact ih (List.mem_cons_of_mem _ hp) hn
    | noDirectory => exact ih (List.mem_cons_of_mem _ hp) hn
    | skipped hs =>
      rcases List.mem_cons.1 hp with he | hp
      · cases he
      · exact ih (List.mem_cons_of_mem _ hp) hn
    | @listed dir' d ds rest l hlink hl =>
      simp only [opened, List.cons_append, List.nil_append, List.mem_cons, Pending.files.injEq,
        reduceCtorEq, false_or] at hp
      rcases hp with ⟨rfl, rfl⟩ | hp
      · exact .inr ⟨l, .directory hms hlink hl, hn⟩
      · exact ih (List.mem_cons_of_mem _ hp) hn

theorem Delivers.sourced (h : w.Delivers s t work g left) :
    ∃ dir n, g = dir ++ [n] ∧ w.Sourced s t work dir n := by
  obtain ⟨hm, -⟩ := h
  exact ⟨_, _, rfl, hm.sourced List.mem_cons_self List.mem_cons_self⟩

theorem Delivers.sourced_left (h : w.Delivers s t work g left) {ns : List Name} {n : Name}
    (hp : .files dir ns ∈ left) (hn : n ∈ ns) : w.Sourced s t work dir n := by
  obtain ⟨hm, -⟩ := h
  rcases List.mem_cons.1 hp with he | hp
  · cases he
    exact hm.sourced List.mem_cons_self (List.mem_cons_of_mem _ hn)
  · exact hm.sourced (List.mem_cons_of_mem _ hp) hn

end ComponentBuild.Walk
