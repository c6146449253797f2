import ComponentBuild.Proofs.SourceSet.Move
import ComponentBuild.Proofs.SourceSet.Order

/-!
What the work that is left may still come to, whatever the tree turns into. Work is ordered as a
walk is, a move only narrows what it may come to, and what is delivered comes before all of the
rest. So no file is delivered twice and no directory listed twice.
-/

namespace ComponentBuild

namespace Pending

def names : Pending → List Name
  | .files _ ns => ns
  | .directories _ ds => ds

def Covers : Pending → List Name → Prop
  | .files dir ns, g => ∃ n ∈ ns, g = dir ++ [n]
  | .directories dir ds, g => ∃ d ∈ ds, ∃ ms, ms ≠ [] ∧ g = dir ++ d :: ms

def Leads : Pending → List Name → Prop
  | .files _ _, _ => False
  | .directories dir ds, g => ∃ d ∈ ds, ∃ ms, g = dir ++ d :: ms

theorem Leads.covers {p : Pending} {dir : List Name} (h : p.Leads dir) (n : Name) :
    p.Covers (dir ++ [n]) := by
  cases p with
  | files => exact h.elim
  | directories dir' ds =>
    obtain ⟨d, hd, ms, rfl⟩ := h
    exact ⟨d, hd, ms ++ [n], by simp, by simp⟩

theorem covers_files_cons {dir ns g : List Name} {n : Name} (h : (files dir ns).Covers g) :
    (files dir (n :: ns)).Covers g := by
  obtain ⟨m, hm, rfl⟩ := h
  exact ⟨m, List.mem_cons_of_mem _ hm, rfl⟩

theorem covers_directories_cons {dir ds g : List Name} {d : Name}
    (h : (directories dir ds).Covers g) : (directories dir (d :: ds)).Covers g := by
  obtain ⟨e, he, ms, hms, rfl⟩ := h
  exact ⟨e, List.mem_cons_of_mem _ he, ms, hms, rfl⟩

theorem leads_directories_cons {dir ds g : List Name} {d : Name}
    (h : (directories dir ds).Leads g) : (directories dir (d :: ds)).Leads g := by
  obtain ⟨e, he, ms, rfl⟩ := h
  exact ⟨e, List.mem_cons_of_mem _ he, ms, rfl⟩

end Pending

namespace Walk

def Covers (work : List Pending) (g : List Name) : Prop := ∃ p ∈ work, p.Covers g

def Leads (work : List Pending) (dir : List Name) : Prop := ∃ p ∈ work, p.Leads dir

structure Ordered (work : List Pending) : Prop where
  sorted : ∀ p ∈ work, Sorted p.names
  before : work.Pairwise fun p q => ∀ f g, p.Covers f → q.Covers g → Before f g

variable {w : Walk} {s : SourceSet} {t : Tree} {work mid rest left : List Pending}
  {dir g : List Name}

theorem covers_cons {p : Pending} : Covers (p :: rest) g ↔ p.Covers g ∨ Covers rest g := by
  simp [Covers]

theorem covers_append : Covers (work ++ rest) g ↔ Covers work g ∨ Covers rest g := by
  simp [Covers, or_and_right, exists_or]

theorem leads_cons {p : Pending} : Leads (p :: rest) g ↔ p.Leads g ∨ Leads rest g := by
  simp [Leads]

theorem covers_singleton {p : Pending} : Covers [p] g ↔ p.Covers g := by
  simp [Covers]

theorem leads_singleton {p : Pending} : Leads [p] g ↔ p.Leads g := by
  simp [Leads]

theorem leads_append : Leads (work ++ rest) g ↔ Leads work g ∨ Leads rest g := by
  simp [Leads, or_and_right, exists_or]

theorem Ordered.nil : Ordered [] := by
  constructor
  · intro p hp
    cases hp
  · exact List.Pairwise.nil

theorem Ordered.single {p : Pending} (h : Sorted p.names) : Ordered [p] := by
  constructor
  · intro q hq
    rw [List.mem_singleton.1 hq]
    exact h
  · exact List.pairwise_singleton ..

theorem Ordered.append (hw : Ordered work) (hr : Ordered rest)
    (h : ∀ f g, Covers work f → Covers rest g → Before f g) : Ordered (work ++ rest) := by
  constructor
  · intro p hp
    rcases List.mem_append.1 hp with hp | hp
    · exact hw.sorted p hp
    · exact hr.sorted p hp
  · refine List.pairwise_append.2 ⟨hw.before, hr.before, ?_⟩
    intro p hp q hq f g hf hg
    exact h f g ⟨p, hp, hf⟩ ⟨q, hq, hg⟩

theorem Ordered.tail {p : Pending} (h : Ordered (p :: rest)) : Ordered rest := by
  constructor
  · intro q hq
    exact h.sorted q (List.mem_cons_of_mem _ hq)
  · exact (List.pairwise_cons.1 h.before).2

theorem Ordered.head_before {p : Pending} (h : Ordered (p :: rest)) {f : List Name}
    (hf : p.Covers f) (hg : Covers rest g) : Before f g := by
  obtain ⟨q, hq, hg⟩ := hg
  exact (List.pairwise_cons.1 h.before).1 q hq f g hf hg

theorem opened_ordered {p : Path} {l : Listing} (hl : t.listing? p = some l) :
    Ordered (opened s dir l) := by
  obtain ⟨loc, -, -, rfl⟩ := Tree.listing?_eq_some.1 hl
  have hsorted := t.names_sorted loc
  refine ⟨?_, List.pairwise_pair.2 ?_⟩
  · intro q hq
    rcases List.mem_cons.1 hq with rfl | hq
    · exact hsorted.filter _
    · obtain rfl := List.mem_singleton.1 hq
      exact (hsorted.filter _).filter _
  · rintro f g ⟨n, -, rfl⟩ ⟨d, -, ms, hms, rfl⟩
    exact Before.file_directory dir n d hms

theorem covers_opened {l : Listing} (h : Covers (opened s dir l) g) :
    ∃ ms, ms ≠ [] ∧ g = dir ++ ms := by
  rcases covers_cons.1 h with ⟨n, -, rfl⟩ | h
  · exact ⟨[n], by simp, rfl⟩
  · rcases covers_cons.1 h with ⟨d, -, ms, -, rfl⟩ | ⟨q, hq, -⟩
    · exact ⟨d :: ms, by simp, rfl⟩
    · simp at hq

theorem leads_opened {l : Listing} (h : Leads (opened s dir l) g) :
    ∃ ms, ms ≠ [] ∧ g = dir ++ ms := by
  rcases leads_cons.1 h with h | h
  · exact h.elim
  · rcases leads_cons.1 h with ⟨d, -, ms, rfl⟩ | ⟨q, hq, -⟩
    · exact ⟨d :: ms, by simp, rfl⟩
    · simp at hq

theorem Move.replaces (h : w.Move s t work mid) :
    ∃ p ps rest, work = p :: rest ∧ mid = ps ++ rest ∧ (Sorted p.names → Ordered ps) ∧
      (∀ g, Covers ps g → p.Covers g) ∧ ∀ dir, Leads ps dir → p.Leads dir := by
  cases h with
  | noFile =>
    exact ⟨_, [], _, rfl, rfl, fun _ => .nil, by simp [Covers], by simp [Leads]⟩
  | @unwanted dir n ns rest hw =>
    refine ⟨_, [.files dir ns], rest, rfl, rfl, ?_, ?_, ?_⟩
    · intro h
      exact .single (List.Pairwise.tail h)
    · intro g hg
      apply Pending.covers_files_cons
      exact covers_singleton.1 hg
    · intro dir' hd
      exact (leads_singleton.1 hd).elim
  | noDirectory =>
    exact ⟨_, [], _, rfl, rfl, fun _ => .nil, by simp [Covers], by simp [Leads]⟩
  | @skipped dir d ds rest hs =>
    refine ⟨_, [.directories dir ds], rest, rfl, rfl, ?_, ?_, ?_⟩
    · intro h
      exact .single (List.Pairwise.tail h)
    · intro g hg
      apply Pending.covers_directories_cons
      exact covers_singleton.1 hg
    · intro dir' hd
      apply Pending.leads_directories_cons
      exact leads_singleton.1 hd
  | @listed dir d ds rest l hlink hl =>
    -- The listed directory comes before the others, so its work goes in front of theirs.
    refine ⟨_, opened s (dir ++ [d]) l ++ [.directories dir ds], rest, rfl, by simp, ?_, ?_, ?_⟩
    · intro h
      obtain ⟨hd, hds⟩ := List.pairwise_cons.1 h
      have hothers : Ordered [.directories dir ds] := .single hds
      apply (opened_ordered hl).append hothers
      intro f g hf hg
      obtain ⟨ms, hms, rfl⟩ := covers_opened hf
      obtain ⟨e, he, ns, hns, rfl⟩ := covers_singleton.1 hg
      simpa using Before.directories dir (hd e he) hms hns
    · intro g hg
      rcases covers_append.1 hg with hg | hg
      · obtain ⟨ms, hms, rfl⟩ := covers_opened hg
        exact ⟨d, List.mem_cons_self, ms, hms, by simp⟩
      · apply Pending.covers_directories_cons
        exact covers_singleton.1 hg
    · intro g hg
      rcases leads_append.1 hg with hg | hg
      · obtain ⟨ms, hms, rfl⟩ := leads_opened hg
        exact ⟨d, List.mem_cons_self, ms, by simp⟩
      · apply Pending.leads_directories_cons
        exact leads_singleton.1 hg

theorem Move.covers (h : w.Move s t work mid) (hg : Covers mid g) : Covers work g := by
  obtain ⟨p, ps, rest, rfl, rfl, -, hc, -⟩ := h.replaces
  apply covers_cons.2
  rcases covers_append.1 hg with hg | hg
  · left
    exact hc g hg
  · right
    exact hg

theorem Move.leads (h : w.Move s t work mid) (hd : Leads mid dir) : Leads work dir := by
  obtain ⟨p, ps, rest, rfl, rfl, -, -, hl⟩ := h.replaces
  apply leads_cons.2
  rcases leads_append.1 hd with hd | hd
  · left
    exact hl dir hd
  · right
    exact hd

theorem Move.ordered (h : w.Move s t work mid) (ho : Ordered work) : Ordered mid := by
  obtain ⟨p, ps, rest, rfl, rfl, hp, hc, -⟩ := h.replaces
  have hps : Ordered ps := hp (ho.sorted p List.mem_cons_self)
  apply hps.append ho.tail
  intro f g hf hg
  exact ho.head_before (hc f hf) hg

theorem Moves.covers (h : w.Moves s t work mid) (hg : Covers mid g) : Covers work g := by
  induction h with
  | refl => exact hg
  | tail _ hm ih => exact ih (hm.covers hg)

theorem Moves.leads (h : w.Moves s t work mid) (hd : Leads mid dir) : Leads work dir := by
  induction h with
  | refl => exact hd
  | tail _ hm ih => exact ih (hm.leads hd)

theorem Moves.ordered (h : w.Moves s t work mid) (ho : Ordered work) : Ordered mid := by
  induction h with
  | refl => exact ho
  | tail _ hm ih => exact hm.ordered ih

theorem Delivers.covers (h : w.Delivers s t work g left) : Covers work g := by
  obtain ⟨hm, -⟩ := h
  exact hm.covers ⟨_, List.mem_cons_self, _, List.mem_cons_self, rfl⟩

theorem Delivers.covers_left (h : w.Delivers s t work g left) {f : List Name} (hf : Covers left f) :
    Covers work f := by
  obtain ⟨hm, -⟩ := h
  apply hm.covers
  apply covers_cons.2
  rcases covers_cons.1 hf with hf | hf
  · left
    exact Pending.covers_files_cons hf
  · right
    exact hf

theorem Delivers.leads_left (h : w.Delivers s t work g left) (hd : Leads left dir) :
    Leads work dir := by
  obtain ⟨hm, -⟩ := h
  apply hm.leads
  apply leads_cons.2
  rcases leads_cons.1 hd with hd | hd
  · exact hd.elim
  · right
    exact hd

theorem Delivers.ordered (h : w.Delivers s t work g left) (ho : Ordered work) : Ordered left := by
  cases h with
  | @file dir n ns rest hm _ =>
    have hmid := hm.ordered ho
    have hns : Sorted ns := List.Pairwise.tail (hmid.sorted _ List.mem_cons_self)
    have hfirst : Ordered [.files dir ns] := .single hns
    apply hfirst.append hmid.tail
    intro f g hf hg
    apply hmid.head_before _ hg
    apply Pending.covers_files_cons
    exact covers_singleton.1 hf

theorem Delivers.before (h : w.Delivers s t work g left) (ho : Ordered work) {f : List Name}
    (hf : Covers left f) : Before g f := by
  obtain ⟨hm, -⟩ := h
  have hmid := hm.ordered ho
  rcases covers_cons.1 hf with ⟨n, hn, rfl⟩ | hf
  · exact Before.files _ ((List.pairwise_cons.1 (hmid.sorted _ List.mem_cons_self)).1 n hn)
  · exact hmid.head_before ⟨_, List.mem_cons_self, rfl⟩ hf

end Walk

end ComponentBuild
