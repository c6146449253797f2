import ComponentBuild.Text.Pieces

/-!
Paths as segments below an anchor. A path keeps every `..` it was written with; a dot, a doubled
slash and a slash at the end leave no trace.
-/

namespace ComponentBuild

def IsName (s : String) : Prop := s ≠ "" ∧ s ≠ "." ∧ s ≠ ".." ∧ '/' ∉ s.toList

instance (s : String) : Decidable (IsName s) := inferInstanceAs (Decidable (_ ∧ _ ∧ _ ∧ _))

structure Name where
  text : String
  isName : IsName text
  deriving DecidableEq

inductive Segment
  | up
  | entry (name : Name)
  deriving DecidableEq

/-- Where a path starts; exactly two slashes at the front are an anchor of their own. -/
inductive Anchor
  | relative
  | root
  | doubleRoot
  deriving DecidableEq

structure Path where
  anchor : Anchor
  segments : List Segment
  deriving DecidableEq

def Name.ofText? (s : String) : Option Name := if h : IsName s then some ⟨s, h⟩ else none

def Segment.text : Segment → String
  | .up => ".."
  | .entry n => n.text

def Segment.ofText? (s : String) : Option Segment :=
  if s = ".." then some .up else (Name.ofText? s).map .entry

namespace Anchor

def text : Anchor → String
  | relative => ""
  | root => "/"
  | doubleRoot => "//"

def ofChars : List Char → Anchor
  | '/' :: '/' :: '/' :: _ => root
  | '/' :: '/' :: _ => doubleRoot
  | '/' :: _ => root
  | _ => relative

end Anchor

def nullByteText : String := "embedded null byte"

namespace Path

def here : Path := ⟨.relative, []⟩

def ofText (s : String) : Path :=
  ⟨.ofChars s.toList, (Text.split '/' s).filterMap Segment.ofText?⟩

def text (p : Path) : String :=
  if p = here then "."
  else p.anchor.text ++ "/".intercalate (p.segments.map Segment.text)

def isAbsolute (p : Path) : Bool := p.anchor ≠ .relative

def hasNullByte (p : Path) : Bool := p.segments.any fun s => '\x00' ∈ s.text.toList

def join (p q : Path) : Path :=
  if q.isAbsolute then q else ⟨p.anchor, p.segments ++ q.segments⟩

def child (p : Path) (n : Name) : Path := ⟨p.anchor, p.segments ++ [.entry n]⟩

def name (p : Path) : String := (p.segments.getLast?.map Segment.text).getD ""

def parent (p : Path) : Path := ⟨p.anchor, p.segments.dropLast⟩

def entry? (p : Path) : Option (Path × Name) :=
  match p.segments.getLast? with
  | some (.entry n) => some (p.parent, n)
  | _ => none

def relativeTo? (p base : Path) : Option Path :=
  if p.anchor = base.anchor ∧ base.segments <+: p.segments then
    some ⟨.relative, p.segments.drop base.segments.length⟩
  else none

def settle (done : List Name) : List Segment → List Name
  | [] => done
  | .up :: rest => settle done.dropLast rest
  | .entry n :: rest => settle (done ++ [n]) rest

def normalized (p : Path) : Path := ⟨p.anchor, (settle [] p.segments).map .entry⟩

@[simp] theorem join_absolute {p q : Path} (h : q.isAbsolute = true) : p.join q = q := by
  simp [join, h]

theorem isAbsolute_join {p : Path} (q : Path) (h : p.isAbsolute = true) :
    (p.join q).isAbsolute = true := by
  unfold join
  split
  · assumption
  · simpa [isAbsolute] using h

theorem settle_entries (done ns : List Name) : settle done (ns.map .entry) = done ++ ns := by
  induction ns generalizing done with
  | nil => simp [settle]
  | cons n ns ih => simp [settle, ih]

end Path

end ComponentBuild
