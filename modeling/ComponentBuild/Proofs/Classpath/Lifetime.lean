import ComponentBuild.Proofs.Classpath.Contexts
import ComponentBuild.Proofs.Classpath.Lineage

/-!
Class-loading contexts that are built below one another and closed, in any order. A context can be
searched until it or one that it was built under is closed, and until then it finds what it found
when it was built.
-/

namespace ComponentBuild.ClassContexts

inductive Event
  | make (build : Build)
  | close (id : Nat)
  | enter (id : Nat)
  | leave (id : Nat)

namespace Event

def build? : Event → Option Build
  | make b => some b
  | _ => none

def closed? : Event → Option Nat
  | close id => some id
  | leave id => some id
  | _ => none

def Possible (n : Nat) : Event → Prop
  | make b => ∀ p ∈ b.parent, p < n
  | close id => id < n
  | enter id => id < n
  | leave id => id < n

instance (n : Nat) : (e : Event) → Decidable (e.Possible n)
  | make b => inferInstanceAs (Decidable (∀ p ∈ b.parent, p < n))
  | close id => inferInstanceAs (Decidable (id < n))
  | enter id => inferInstanceAs (Decidable (id < n))
  | leave id => inferInstanceAs (Decidable (id < n))

end Event

@[simp] def next (cs : ClassContexts) : Event → ClassContexts
  | .make b => (cs.make b.locations b.parent).1
  | .close id => cs.close id
  | .enter _ => cs
  | .leave id => cs.close id

def after (events : List Event) : ClassContexts := events.foldl next empty

def builds (events : List Event) : List Build := events.filterMap Event.build?

def closings (events : List Event) : List Nat := events.filterMap Event.closed?

inductive History : List Event → Prop
  | nil : History []
  | concat {events : List Event} {e : Event} : History events →
      e.Possible (builds events).length → History (events ++ [e])

theorem after_concat (events : List Event) (e : Event) :
    after (events ++ [e]) = (after events).next e := by
  rw [after, List.foldl_append]
  rfl

theorem builds_append (events later : List Event) :
    builds (events ++ later) = builds events ++ builds later := List.filterMap_append

theorem closings_append (events later : List Event) :
    closings (events ++ later) = closings events ++ closings later := List.filterMap_append

structure Keeps (cs : ClassContexts) (bs : List Build) (closed : List Nat) : Prop where
  count : cs.count = bs.length
  older : ∀ id (b : Build) p, bs[id]? = some b → b.parent = some p → p < id
  get? : ∀ id (b : Build), bs[id]? = some b →
    cs.get? id = some (if id ∈ closed then .close else ⟨b.locations, b.parent, false⟩)
  closed : ∀ id ∈ closed, id < bs.length

namespace Keeps

variable {cs : ClassContexts} {bs : List Build} {closed : List Nat} {id : Nat}

theorem getElem?_concat {b c : Build} (h : (bs ++ [b])[id]? = some c) :
    bs[id]? = some c ∨ id = bs.length ∧ c = b := by
  rcases Nat.lt_or_ge id bs.length with hlt | hge
  · rw [List.getElem?_append_left hlt] at h
    exact .inl h
  · rw [List.getElem?_append_right hge, List.getElem?_singleton] at h
    split at h
    · exact .inr ⟨by omega, (Option.some.inj h).symm⟩
    · cases h

theorem make (h : Keeps cs bs closed) {b : Build} (hb : ∀ p, b.parent = some p → p < bs.length) :
    Keeps (cs.make b.locations b.parent).1 (bs ++ [b]) closed := by
  constructor
  · rw [count_make, h.count, List.length_append, List.length_singleton]
  · intro id c p hid hp
    rcases getElem?_concat hid with hid | ⟨rfl, rfl⟩
    · exact h.older id c p hid hp
    · exact hb p hp
  · intro id c hid
    rcases getElem?_concat hid with hid | ⟨rfl, rfl⟩
    · have hlt : id < bs.length := (List.getElem?_eq_some_iff.1 hid).1
      have hne : id ≠ cs.count := by
        rw [h.count]
        omega
      rw [get?_make_of_ne _ _ hne]
      exact h.get? id c hid
    · have hopen : bs.length ∉ closed := by
        intro hmem
        exact Nat.lt_irrefl _ (h.closed _ hmem)
      rw [if_neg hopen, ← h.count]
      exact get?_make cs c.locations c.parent
  · intro id hid
    have hlt := h.closed id hid
    rw [List.length_append, List.length_singleton]
    omega

theorem close (h : Keeps cs bs closed) (hid : id < bs.length) :
    Keeps (cs.close id) bs (closed ++ [id]) := by
  constructor
  · rw [count_close, h.count]
  · exact h.older
  · intro j b hj
    rw [get?_close, h.get? j b hj]
    by_cases hji : j = id
    · simp [hji]
    · simp [hji]
  · intro j hj
    rcases List.mem_append.1 hj with hj | hj
    · exact h.closed j hj
    · rw [List.mem_singleton.1 hj]
      exact hid

theorem next (h : Keeps cs bs closed) {e : Event} (he : e.Possible bs.length) :
    Keeps (cs.next e) (bs ++ e.build?.toList) (closed ++ e.closed?.toList) := by
  cases e with
  | make b => simpa [Event.build?, Event.closed?] using h.make he
  | close id => simpa [Event.build?, Event.closed?] using h.close he
  | enter id => simpa [Event.build?, Event.closed?] using h
  | leave id => simpa [Event.build?, Event.closed?] using h.close he

theorem lineage_exists (h : Keeps cs bs closed) (hid : id < bs.length) :
    ∃ line, Lineage bs id line := by
  induction id using Nat.strongRecOn with
  | ind id ih =>
    obtain ⟨b, hb⟩ : ∃ b, bs[id]? = some b := ⟨bs[id], List.getElem?_eq_getElem hid⟩
    obtain ⟨locations, parent⟩ := b
    cases parent with
    | none => exact ⟨_, .top hb⟩
    | some p =>
      have hlt : p < id := h.older id _ p hb rfl
      obtain ⟨line, hline⟩ := ih p hlt (Nat.lt_trans hlt hid)
      exact ⟨_, .under hb hline⟩

theorem searchPath_of_lineage (h : Keeps cs bs closed) {line : List Member}
    (hline : Lineage bs id line) :
    cs.searchPath id =
      if ∃ m ∈ line, m.id ∈ closed then .error .closed else .ok (found line) := by
  induction hline with
  | @top id locations hid =>
    have hget := h.get? id _ hid
    by_cases hclosed : id ∈ closed
    · rw [if_pos hclosed] at hget
      rw [searchPath_closed hget, if_pos ⟨_, List.mem_singleton_self _, hclosed⟩]
    · rw [if_neg hclosed] at hget
      rw [searchPath_top hget, if_neg (by simpa using hclosed)]
      rfl
  | @under id parent locations line hid _ ih =>
    have hget := h.get? id _ hid
    by_cases hclosed : id ∈ closed
    · rw [if_pos hclosed] at hget
      rw [searchPath_closed hget, if_pos ⟨⟨id, locations⟩, by simp, hclosed⟩]
    · rw [if_neg hclosed] at hget
      have hlt : parent < id := h.older id _ parent hid rfl
      have hiff : (∃ m ∈ line ++ [⟨id, locations⟩], m.id ∈ closed) ↔ ∃ m ∈ line, m.id ∈ closed := by
        simp [or_and_right, exists_or, hclosed]
      rw [searchPath_under hget hlt, ih, found_concat]
      simp only [hiff]
      split
      · rfl
      · rfl

end Keeps

theorem History.keeps {events : List Event} (h : History events) :
    Keeps (after events) (builds events) (closings events) := by
  induction h with
  | nil => exact ⟨rfl, by simp [builds], by simp [builds], by simp [closings]⟩
  | @concat events e _ he ih =>
    have hnext := ih.next he
    have hbuilds : builds [e] = e.build?.toList := by cases e <;> rfl
    have hclosings : closings [e] = e.closed?.toList := by cases e <;> rfl
    rw [after_concat, builds_append, closings_append, hbuilds, hclosings]
    exact hnext

theorem History.of_append {earlier later : List Event} (h : History (earlier ++ later)) :
    History earlier := by
  induction later using List.reverseRecOn with
  | nil => simpa using h
  | append_singleton later e ih =>
    apply ih
    rw [← List.append_assoc] at h
    generalize hevents : earlier ++ later ++ [e] = events at h
    cases h with
    | nil => simp at hevents
    | concat h _ =>
      obtain ⟨rfl, -⟩ := List.append_inj' hevents rfl
      exact h

structure Lasts (events : List Event) (id : Nat) (line : List Member) : Prop where
  fails_iff : (after events).searchPath id = .error .closed ↔ ∃ m ∈ line, m.id ∈ closings events
  since_built : (∀ m ∈ line, m.id ∉ closings events) → ∀ earlier later,
    events = earlier ++ later → id < (builds earlier).length →
      (after earlier).searchPath id = .ok (found line)
  inherits : ∀ (b : Build) p path, (builds events)[id]? = some b → b.parent = some p →
    (after events).searchPath id = .ok path → ∃ inherited,
      (after events).searchPath p = .ok inherited ∧
        path = inherited ++ b.locations.filter (· ∉ inherited)
  locations : ∀ path, (after events).searchPath id = .ok path → ∀ m ∈ line, m.locations ⊆ path
  nodup : ∀ path, (after events).searchPath id = .ok path → (∀ m ∈ line, m.locations.Nodup) →
    path.Nodup

section Histories

variable {events : List Event} {id : Nat} {line : List Member}

theorem History.searchPath (h : History events) (hline : Lineage (builds events) id line) :
    (after events).searchPath id =
      if ∃ m ∈ line, m.id ∈ closings events then .error .closed else .ok (found line) :=
  h.keeps.searchPath_of_lineage hline

theorem History.eq_found (h : History events) (hline : Lineage (builds events) id line)
    {path : List Path} (hpath : (after events).searchPath id = .ok path) : path = found line := by
  rw [h.searchPath hline] at hpath
  split at hpath
  · cases hpath
  · exact (Except.ok.inj hpath).symm

theorem History.lineage_earlier {earlier later : List Event} (h : History (earlier ++ later))
    (hline : Lineage (builds (earlier ++ later)) id line) (hid : id < (builds earlier).length) :
    Lineage (builds earlier) id line := by
  obtain ⟨line', hline'⟩ := h.of_append.keeps.lineage_exists hid
  have hlater := hline'.append (builds later)
  rw [← builds_append] at hlater
  rw [hline.unique hlater]
  exact hline'

theorem History.lasts (h : History events) (hline : Lineage (builds events) id line) :
    Lasts events id line := by
  constructor
  · rw [h.searchPath hline]
    split <;> simp_all
  · rintro hopen earlier later rfl hid
    have hstill : ¬ ∃ m ∈ line, m.id ∈ closings earlier := by
      rintro ⟨m, hm, hclosed⟩
      apply hopen m hm
      rw [closings_append]
      exact List.mem_append_left _ hclosed
    rw [h.of_append.searchPath (h.lineage_earlier hline hid), if_neg hstill]
  · intro b p path hb hp hpath
    cases hline with
    | top hid =>
      rw [hid] at hb
      cases hb
      cases hp
    | @under _ parent locations above hid habove =>
      rw [hid] at hb
      cases hb
      cases hp
      have hfound := h.eq_found (.under hid habove) hpath
      have hnone : ¬ ∃ m ∈ above, m.id ∈ closings events := by
        rintro ⟨m, hm, hclosed⟩
        rw [h.searchPath (.under hid habove),
          if_pos ⟨m, List.mem_append_left _ hm, hclosed⟩] at hpath
        cases hpath
      refine ⟨found above, ?_, ?_⟩
      · rw [h.searchPath habove, if_neg hnone]
      · rw [hfound, found_concat]
  · intro path hpath m hm p hp
    rw [h.eq_found hline hpath]
    exact mem_found hm hp
  · intro path hpath hnodup
    rw [h.eq_found hline hpath]
    exact found_nodup hnodup

/-- Every context that was built has a lineage, and can be searched exactly until one of it is
closed. To close a context changes no other one. -/
theorem searched_until_closed (h : History events) :
    (∀ id < (builds events).length, ∃ line, Lineage (builds events) id line ∧
        Lasts events id line) ∧
      ∀ (e : Event) (id j : Nat), e.closed? = some id → j ≠ id →
        (after (events ++ [e])).get? j = (after events).get? j := by
  constructor
  · intro id hid
    obtain ⟨line, hline⟩ := h.keeps.lineage_exists hid
    exact ⟨line, hline, h.lasts hline⟩
  · intro e id j he hj
    have hclose : (after events).next e = (after events).close id := by
      cases e with
      | make b => cases he
      | close id => cases he; rfl
      | enter id => cases he
      | leave id => cases he; rfl
    rw [after_concat, hclose, get?_close, if_neg hj]

end Histories

section Family

def familyEvents : List Event :=
  [.make ⟨[.ofText "/lib"], none⟩, .make ⟨[.ofText "/lib", .ofText "/a"], some 0⟩,
    .make ⟨[.ofText "/b"], some 0⟩, .enter 1, .make ⟨[.ofText "/c"], some 1⟩, .leave 1]

theorem history_family : History familyEvents := by
  have h : History [] := .nil
  have h := h.concat (e := .make ⟨[.ofText "/lib"], none⟩) (by decide)
  have h := h.concat (e := .make ⟨[.ofText "/lib", .ofText "/a"], some 0⟩) (by decide)
  have h := h.concat (e := .make ⟨[.ofText "/b"], some 0⟩) (by decide)
  have h := h.concat (e := .enter 1) (by decide)
  have h := h.concat (e := .make ⟨[.ofText "/c"], some 1⟩) (by decide)
  exact h.concat (e := .leave 1) (by decide)

theorem searched_until_closed_family :
    History familyEvents ∧ (after familyEvents).searchPath 3 = .error .closed ∧
      (after familyEvents).searchPath 2 = .ok [.ofText "/lib", .ofText "/b"] ∧
      (after (familyEvents ++ [.close 2])).get? 3 = some ⟨[.ofText "/c"], some 1, false⟩ := by
  obtain ⟨hlasts, hothers⟩ := searched_until_closed history_family
  refine ⟨history_family, ?_, ?_, ?_⟩
  · obtain ⟨line, hline, hlast⟩ := hlasts 3 (by decide)
    have hinner : Lineage (builds familyEvents) 3 _ := .under rfl (.under rfl (.top rfl))
    rw [hlast.fails_iff, hline.unique hinner]
    exact ⟨⟨1, [.ofText "/lib", .ofText "/a"]⟩, by simp, by decide⟩
  · obtain ⟨line, hline, hlast⟩ := hlasts 2 (by decide)
    have hother : Lineage (builds familyEvents) 2 _ := .under rfl (.top rfl)
    have hopen : ∀ m ∈ line, m.id ∉ closings familyEvents := by
      rw [hline.unique hother]
      decide
    have hfound := hlast.since_built hopen familyEvents [] (List.append_nil _).symm (by decide)
    rw [hfound, hline.unique hother]
    decide +kernel
  · rw [hothers (.close 2) 2 3 rfl (by decide)]
    rfl

end Family

end ComponentBuild.ClassContexts
