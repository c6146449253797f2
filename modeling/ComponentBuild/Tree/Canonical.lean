import ComponentBuild.Tree.Lookup

/-!
The canonical form of a path: absolute, without `..` and without links as far as they lead
somewhere. A link that is met again while it is being followed keeps the rest of the path as it is.
-/

namespace ComponentBuild

structure LinkLoop where
  path : Path
  deriving DecidableEq

def LinkLoop.message (l : LinkLoop) : String := s!"Symlink loop from {Text.quoted l.path.text}"

namespace Path

def climb (p : Path) : Path :=
  match p.segments.getLast? with
  | some (.entry _) => p.parent
  | some .up => ⟨p.anchor, p.segments ++ [.up]⟩
  | none => if p.isAbsolute then p else ⟨p.anchor, [.up]⟩

def append (p : Path) (rest : List Segment) : Path := ⟨p.anchor, p.segments ++ rest⟩

end Path

namespace Tree

/-- Goes through the segments from a path without links, handing over to `follow` at a link that
is not among those being followed. The flag tells whether all was followed. -/
def canonicalWith (t : Tree) (base : Location) (active : List Path)
    (follow : List Path → Path → List Segment → Path × Bool) :
    Path → List Segment → Path × Bool
  | p, [] => (p, true)
  | p, .up :: rest => canonicalWith t base active follow p.climb rest
  | p, .entry n :: rest =>
    match t.linkTarget? base p n with
    | none => canonicalWith t base active follow (p.child n) rest
    | some target =>
      if p.child n ∈ active then ((p.child n).append rest, false)
      else
        match follow (p.child n :: active) (if target.isAbsolute then ⟨.root, []⟩ else p)
            target.segments with
        | (q, true) => canonicalWith t base active follow q rest
        | (q, false) => (q.append rest, false)

def canonicalFrom (t : Tree) (base : Location) :
    Nat → List Path → Path → List Segment → Path × Bool
  | 0, _, p, rest => (p.append rest, false)
  | depth + 1, active, p, rest =>
    t.canonicalWith base active (t.canonicalFrom base depth) p rest

/-- Each link can be being followed once for every way to write its path from `base`. -/
def canonical (t : Tree) (base : Location) (p : Path) : Except LinkLoop Path :=
  let depth := (t.entries.length + 1) * (base.length + 2)
  let start : Path := if p.isAbsolute then ⟨.root, []⟩ else .here
  let found := (t.canonicalFrom base depth [] start p.segments).1
  let result := ((Path.ofLocation base).join found).normalized
  match t.find base result with
  | .error .tooManyLinks => .error ⟨result⟩
  | _ => .ok result

end Tree

end ComponentBuild
