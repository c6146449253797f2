import ComponentBuild.Proofs.Classpath.Entries

namespace ComponentBuild.Classpath

inductive Start
  | items (items : List ClasspathItem)
  | parsed (s : String)

inductive Addition
  | item (item : ClasspathItem)
  | itself

def Start.make (host : Host) : Start → Except HomeFault Classpath
  | .items is => ofItems host is
  | .parsed s => parse host s

def Start.additions (host : Host) : Start → List (Host × Addition)
  | .items is => is.map fun i => (host, .item i)
  | .parsed s => [(host, .item (.text s))]

def Addition.of (cp : Classpath) : Addition → ClasspathItem
  | .item i => i
  | .itself => .classpath cp

def addAll : Classpath → List (Host × Addition) → Classpath × Option HomeFault
  | cp, [] => (cp, none)
  | cp, (host, a) :: later =>
    match cp.add host (a.of cp) with
    | (cp', none) => addAll cp' later
    | failed => failed

inductive Denotes (host : Host) (before : List Path) : Addition → List Path → Prop
  | text {s : String} {qs : List Path} :
      List.Forall₂ (fun part q => host.entered (.ofText part) = .ok q) (Text.parts separator s) qs →
      Denotes host before (.item (.text s)) qs
  | path {p q : Path} : host.entered p = .ok q → Denotes host before (.item (.path p)) [q]
  | classpath (cp : Classpath) : Denotes host before (.item (.classpath cp)) cp.entries
  | itself : Denotes host before .itself before.eraseDups

inductive Denoted : List Path → List (Host × Addition) → List Path → Prop
  | nil {before : List Path} : Denoted before [] before
  | cons {before qs all : List Path} {host : Host} {a : Addition} {later : List (Host × Addition)} :
      Denotes host before a qs → Denoted (before ++ qs) later all →
      Denoted before ((host, a) :: later) all

variable {host : Host} {cp last : Classpath} {before all ps qs : List Path} {a : Addition}
  {adds : List (Host × Addition)}

theorem entered_absolute (h : ∀ p ∈ ps, p.isAbsolute = true) :
    List.Forall₂ (fun p q => host.entered p = .ok q) ps qs ↔ qs = ps := by
  have hself (p : Path) (hp : p ∈ ps) : host.entered p = .ok p :=
    Host.entered_of_isAbsolute (h p hp)
  constructor
  · intro hqs
    induction hqs with
    | nil => rfl
    | @cons p q ps qs hq _ ih =>
      have hp := hself p List.mem_cons_self
      rw [hq] at hp
      obtain rfl := Except.ok.inj hp
      have hps := ih (fun r hr => h r (List.mem_cons_of_mem _ hr))
        (fun r hr => hself r (List.mem_cons_of_mem _ hr))
      rw [hps]
  · rintro rfl
    rw [List.forall₂_same]
    exact hself

theorem denotes_iff (h : cp.entries = before.eraseDups) :
    Denotes host before a qs ↔
      List.Forall₂ (fun p q => host.entered p = .ok q) (a.of cp).paths qs := by
  constructor
  · intro hd
    cases hd with
    | text hs => exact List.forall₂_map_left_iff.2 hs
    | path hp => exact .cons hp .nil
    | classpath other => exact (entered_absolute other.absolute).2 rfl
    | itself =>
      rw [← h]
      exact (entered_absolute cp.absolute).2 rfl
  · intro hqs
    cases a with
    | itself =>
      have hentries : qs = cp.entries := (entered_absolute cp.absolute).1 hqs
      rw [hentries, h]
      exact .itself
    | item item =>
      cases item with
      | text s => exact .text (List.forall₂_map_left_iff.1 hqs)
      | path p =>
        obtain ⟨q, rest, hq, hrest, rfl⟩ := List.forall₂_cons_left_iff.1 hqs
        cases hrest
        exact .path hq
      | classpath other =>
        have hentries : qs = other.entries := (entered_absolute other.absolute).1 hqs
        rw [hentries]
        exact .classpath other

theorem eraseDups_append_congr (h : cp.entries = before.eraseDups) (qs : List Path) :
    (cp.entries ++ qs).eraseDups = (before ++ qs).eraseDups := by
  have hmem : qs.removeAll cp.entries = qs.removeAll before := by
    simp [List.removeAll, h, List.mem_eraseDups]
  rw [List.eraseDups_append, List.eraseDups_append, hmem, eraseDups_of_nodup cp.distinct, h]

theorem add_eq_ok (h : cp.entries = before.eraseDups) :
    cp.add host (a.of cp) = (last, none) ↔
      ∃ qs, Denotes host before a qs ∧ last.entries = (before ++ qs).eraseDups := by
  rw [add, addPaths_eq_ok]
  simp only [denotes_iff h, eraseDups_append_congr h]

theorem add_of_denotes (h : cp.entries = before.eraseDups) (hqs : Denotes host before a qs) :
    ∃ next, cp.add host (a.of cp) = (next, none) ∧ next.entries = (before ++ qs).eraseDups := by
  obtain ⟨next, hnext, hentries⟩ := addPaths_of_entered cp ((denotes_iff h).1 hqs)
  rw [eraseDups_append_congr h] at hentries
  exact ⟨next, hnext, hentries⟩

theorem addAll_eq_ok (h : cp.entries = before.eraseDups) :
    addAll cp adds = (last, none) ↔
      ∃ all, Denoted before adds all ∧ last.entries = all.eraseDups := by
  induction adds generalizing cp before with
  | nil =>
    constructor
    · intro hadd
      cases hadd
      exact ⟨before, .nil, h⟩
    · rintro ⟨_, ⟨⟩, hentries⟩
      rw [addAll, eq_of_entries (h.trans hentries.symm)]
  | cons x later ih =>
    obtain ⟨host, a⟩ := x
    rw [addAll]
    constructor
    · intro hadd
      split at hadd
      · rename_i next hnext
        obtain ⟨qs, hqs, hentries⟩ := (add_eq_ok h).1 hnext
        obtain ⟨all, hall, hlast⟩ := (ih hentries).1 hadd
        exact ⟨all, .cons hqs hall, hlast⟩
      · rename_i hfailed
        exact absurd hadd (hfailed last)
    · rintro ⟨all, hall, hlast⟩
      cases hall with
      | cons hqs hall =>
        obtain ⟨next, hnext, hentries⟩ := add_of_denotes h hqs
        rw [hnext]
        exact (ih hentries).2 ⟨all, hall, hlast⟩

theorem addAll_append (cp : Classpath) (earlier later : List (Host × Addition)) :
    cp.addAll (earlier ++ later) =
      match cp.addAll earlier with
      | (mid, none) => mid.addAll later
      | failed => failed := by
  induction earlier generalizing cp with
  | nil => rfl
  | cons x earlier ih =>
    obtain ⟨host, a⟩ := x
    simp only [List.cons_append, addAll]
    rcases cp.add host (a.of cp) with ⟨next, _ | fault⟩
    · exact ih next
    · rfl

theorem addAll_append_eq_ok {earlier later : List (Host × Addition)} :
    cp.addAll (earlier ++ later) = (last, none) ↔
      ∃ mid, cp.addAll earlier = (mid, none) ∧ mid.addAll later = (last, none) := by
  rw [addAll_append]
  rcases cp.addAll earlier with ⟨mid, _ | fault⟩ <;> simp

theorem addAll_items (cp : Classpath) (host : Host) (items : List ClasspathItem) :
    cp.addAll (items.map fun i => (host, .item i)) =
      addPaths host cp (items.flatMap ClasspathItem.paths) := by
  induction items generalizing cp with
  | nil => rfl
  | cons i items ih =>
    rw [List.flatMap_cons, addPaths_append, List.map_cons, addAll]
    rcases h : addPaths host cp i.paths with ⟨next, _ | fault⟩
    · simp only [add, Addition.of, h, ih]
    · simp only [add, Addition.of, h]

theorem make_eq_ok {start : Start} :
    start.make host = .ok cp ↔ empty.addAll (start.additions host) = (cp, none) := by
  have hitems (items : List ClasspathItem) : ofItems host items = .ok cp ↔
      empty.addAll (items.map fun i => (host, .item i)) = (cp, none) := by
    rw [addAll_items, ofItems]
    rcases addPaths host empty (items.flatMap ClasspathItem.paths) with ⟨made, _ | fault⟩ <;> simp
  cases start with
  | items items => exact hitems items
  | parsed s => exact hitems [.text s]

theorem Denoted.front (h : Denoted before adds all) : before <+: all := by
  induction h with
  | nil => exact List.prefix_refl _
  | cons _ _ ih => exact (List.prefix_append _ _).trans ih

theorem Denoted.mem (h : Denoted before adds all) {x : Host × Addition} (hx : x ∈ adds) :
    ∃ qs, Denotes x.1 all x.2 qs ∧ qs ⊆ all := by
  induction h with
  | nil => cases hx
  | @cons before qs all host a later hqs hlater ih =>
    rcases List.mem_cons.1 hx with rfl | hx
    · have hsubset : qs ⊆ all := List.Subset.trans (List.subset_append_right _ _) hlater.front.subset
      cases hqs with
      | text hs => exact ⟨qs, .text hs, hsubset⟩
      | path hp => exact ⟨_, .path hp, hsubset⟩
      | classpath other => exact ⟨_, .classpath other, hsubset⟩
      | itself => exact ⟨_, .itself, fun p hp => List.mem_eraseDups.1 hp⟩
    · exact ih hx

theorem eraseDups_append_of_subset (h : qs ⊆ all) : (all ++ qs).eraseDups = all.eraseDups := by
  have hnone : qs.removeAll all = [] := by
    rw [List.removeAll, List.filter_eq_nil_iff]
    intro q hq
    simpa using h hq
  rw [List.eraseDups_append, hnone, List.eraseDups_nil, List.append_nil]

theorem prefix_of_addAll (h : cp.addAll adds = (last, none)) : cp.entries <+: last.entries := by
  have hself : cp.entries.eraseDups = cp.entries := eraseDups_of_nodup cp.distinct
  obtain ⟨all, hall, hentries⟩ := (addAll_eq_ok hself.symm).1 h
  obtain ⟨more, rfl⟩ := hall.front
  rw [hentries, List.eraseDups_append, hself]
  exact List.prefix_append _ _

theorem add_again (h : empty.addAll adds = (cp, none)) {x : Host × Addition} (hx : x ∈ adds) :
    cp.add x.1 (x.2.of cp) = (cp, none) := by
  have hnone : empty.entries = ([] : List Path).eraseDups := rfl
  obtain ⟨all, hall, hentries⟩ := (addAll_eq_ok hnone).1 h
  obtain ⟨qs, hqs, hsubset⟩ := hall.mem hx
  apply (add_eq_ok hentries).2
  refine ⟨qs, hqs, ?_⟩
  rw [hentries, eraseDups_append_of_subset hsubset]

theorem add_text_append (cp : Classpath) (host : Host) (a b : String) :
    cp.add host (.text (a ++ ":" ++ b)) =
      match cp.add host (.text a) with
      | (mid, none) => mid.add host (.text b)
      | failed => failed := by
  have hpaths : (ClasspathItem.text (a ++ ":" ++ b)).paths =
      (ClasspathItem.text a).paths ++ (ClasspathItem.text b).paths := by
    have hparts := Text.parts_append separator a b
    simp only [ClasspathItem.paths, ← List.map_append, ← hparts]
    rfl
  rw [add, hpaths, addPaths_append]
  rfl

/-- A classpath has the paths that were denoted, each where it came first. So its entries are
absolute and distinct, what is there stays in front, and to add something again changes nothing. -/
theorem entries_keep_first (host : Host) (start : Start) (adds : List (Host × Addition)) :
    (∀ cp, (∃ made, start.make host = .ok made ∧ made.addAll adds = (cp, none)) ↔
        ∃ all, Denoted [] (start.additions host ++ adds) all ∧ cp.entries = all.eraseDups) ∧
      (∀ made cp, start.make host = .ok made → made.addAll adds = (cp, none) →
        cp.entries.Nodup ∧ (∀ p ∈ cp.entries, p.isAbsolute = true) ∧
        (∀ earlier later, adds = earlier ++ later → ∃ mid, made.addAll earlier = (mid, none) ∧
          made.entries <+: mid.entries ∧ mid.entries <+: cp.entries) ∧
        ∀ x ∈ start.additions host ++ adds, cp.add x.1 (x.2.of cp) = (cp, none)) ∧
      ∀ (cp : Classpath) (a b : String), cp.add host (.text (a ++ ":" ++ b)) =
        match cp.add host (.text a) with
        | (mid, none) => mid.add host (.text b)
        | failed => failed := by
  have hrun (cp : Classpath) :
      (∃ made, start.make host = .ok made ∧ made.addAll adds = (cp, none)) ↔
        empty.addAll (start.additions host ++ adds) = (cp, none) := by
    simp only [make_eq_ok, addAll_append_eq_ok]
  refine ⟨?_, ?_, ?_⟩
  · intro cp
    rw [hrun]
    exact addAll_eq_ok rfl
  · intro made cp hmade hadds
    refine ⟨cp.distinct, cp.absolute, ?_, ?_⟩
    · rintro earlier later rfl
      obtain ⟨mid, hearlier, hlater⟩ := addAll_append_eq_ok.1 hadds
      exact ⟨mid, hearlier, prefix_of_addAll hearlier, prefix_of_addAll hlater⟩
    · intro x hx
      exact add_again ((hrun cp).1 ⟨made, hmade, hadds⟩) hx
  · intro cp a b
    exact cp.add_text_append host a b

section Plain

def homedHost : Host := ⟨.empty, [], ⟨.ofText "/home", []⟩, [], fun _ => true⟩

def plainStart : Start := .items [.text "a: ~/b ::a", .path (.ofText "c")]

def plainAdditions : List (Host × Addition) :=
  [(homedHost, .itself), (homedHost, .item (.text "b:/c"))]

theorem entries_keep_first_plain :
    ∃ made cp, plainStart.make homedHost = .ok made ∧ made.addAll plainAdditions = (cp, none) ∧
      cp.entries = [.ofText "/a", .ofText "/home/b", .ofText "/c", .ofText "/b"] ∧
      made.entries <+: cp.entries ∧ cp.add homedHost (.text "b:/c") = (cp, none) := by
  let found := plainStart.make homedHost
  have hadded : found.toOption.map (fun made => (made.addAll plainAdditions).1.entries) =
      some [.ofText "/a", .ofText "/home/b", .ofText "/c", .ofText "/b"] := by decide +kernel
  have hnone : found.toOption.map (fun made => (made.addAll plainAdditions).2) = some none := by
    decide +kernel
  cases hmade : found with
  | error fault =>
    rw [hmade] at hadded
    cases hadded
  | ok made =>
    rw [hmade] at hadded hnone
    obtain ⟨cp, hcp⟩ : ∃ cp, made.addAll plainAdditions = (cp, none) := by
      exact ⟨_, Prod.ext rfl (Option.some.inj hnone)⟩
    have hentries := Option.some.inj hadded
    simp only [hcp] at hentries
    obtain ⟨-, hgrows, -⟩ := entries_keep_first homedHost plainStart plainAdditions
    obtain ⟨-, -, hfront, hagain⟩ := hgrows made cp hmade hcp
    obtain ⟨mid, -, hmade', hmid⟩ := hfront plainAdditions [] (List.append_nil _).symm
    have hlast := hagain (homedHost, .item (.text "b:/c")) (by simp [plainAdditions])
    exact ⟨made, cp, hmade, hcp, hentries, hmade'.trans hmid, hlast⟩

end Plain

end ComponentBuild.Classpath
