import ComponentBuild.Path.Basic
import ComponentBuild.Text.Order

namespace ComponentBuild

abbrev Location := List Name

def Path.ofLocation (loc : Location) : Path := ⟨.root, loc.map .entry⟩

structure LinkTarget where
  path : Path
  slashed : Bool
  deriving DecidableEq

def LinkTarget.ofText (s : String) : LinkTarget :=
  ⟨.ofText s, (Text.split '/' s).getLast?.any fun last => last = "" || last = "."⟩

inductive Node
  | file (content : List UInt8)
  | directory
  | link (target : LinkTarget)
  deriving DecidableEq

structure Tree where
  entries : List (Location × Node)
  distinct : (entries.map Prod.fst).Nodup

namespace Tree

def empty : Tree := ⟨[], List.nodup_nil⟩

def node? (t : Tree) : Location → Option Node
  | [] => some .directory
  | loc => t.entries.lookup loc

def keep (t : Tree) (test : Location → Bool) : Tree where
  entries := t.entries.filter fun e => test e.1
  distinct := t.distinct.sublist (List.filter_sublist.map Prod.fst)

def insert (t : Tree) (loc : Location) (node : Node) : Tree where
  entries := (loc, node) :: (t.keep (· ≠ loc)).entries
  distinct := by
    refine List.nodup_cons.2 ⟨?_, (t.keep (· ≠ loc)).distinct⟩
    simp [keep]

def erase (t : Tree) (loc : Location) : Tree := t.keep fun l => !loc.isPrefixOf l

def entryName? (dir loc : Location) : Option Name :=
  if loc.dropLast = dir then loc.getLast? else none

def names (t : Tree) (dir : Location) : List Name :=
  Text.sortBy Name.text (t.entries.filterMap fun e => entryName? dir e.1)

def height (t : Tree) : Nat := t.entries.foldr (fun e n => max e.1.length n) 0

theorem entryName?_eq_some {dir loc : Location} {n : Name} :
    entryName? dir loc = some n ↔ loc = dir ++ [n] := by
  unfold entryName?
  constructor
  · intro h
    split at h
    · rename_i hd
      obtain ⟨ns, rfl⟩ := List.getLast?_eq_some_iff.1 h
      simp at hd
      rw [hd]
    · simp at h
  · rintro rfl
    simp

theorem mem_names {t : Tree} {dir : Location} {n : Name} :
    n ∈ t.names dir ↔ ∃ node, (dir ++ [n], node) ∈ t.entries := by
  simp only [names, Text.mem_sortBy, List.mem_filterMap, entryName?_eq_some]
  constructor
  · rintro ⟨⟨loc, node⟩, h, rfl⟩
    exact ⟨node, h⟩
  · rintro ⟨node, h⟩
    exact ⟨_, h, rfl⟩

theorem length_le_height {t : Tree} {loc : Location} {node : Node} (h : (loc, node) ∈ t.entries) :
    loc.length ≤ t.height := by
  unfold height
  generalize t.entries = es at h
  induction es with
  | nil => simp at h
  | cons e es ih =>
    rcases List.mem_cons.1 h with rfl | h
    · exact Nat.le_max_left ..
    · exact Nat.le_trans (ih h) (Nat.le_max_right ..)

end Tree

end ComponentBuild
