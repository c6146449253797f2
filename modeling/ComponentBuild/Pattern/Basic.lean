import ComponentBuild.Text.Blank

/-!
Patterns of paths. Two stars stand for any run of characters without a line feed, one star for any
run without a slash, a question mark for one character other than a slash.
-/

namespace ComponentBuild

inductive Piece
  | char (c : Char)
  | one
  | run
  | any
  | leading
  | trailing
  deriving DecidableEq

structure Pattern where
  text : String
  pieces : List Piece
  deriving DecidableEq

namespace Pattern

/-- Two stars take a slash along: the one after them, or at the end the one before them. -/
def piecesOf : List Char → List Piece
  | [] => []
  | '*' :: '*' :: '/' :: cs => .leading :: piecesOf cs
  | ['/', '*', '*'] => [.trailing]
  | '*' :: '*' :: cs => .any :: piecesOf cs
  | '*' :: cs => .run :: piecesOf cs
  | '?' :: cs => .one :: piecesOf cs
  | c :: cs => .char c :: piecesOf cs

def slashed (c : Char) : Char := if c = '\\' then '/' else c

/-- The text without blanks around it, with slashes for backslashes and none of them in front; one
at the end stands for everything below. -/
def normalText? (s : String) : Option (List Char) :=
  let cs := (Text.trimChars s.toList).map slashed
  match cs.getLast? with
  | none => none
  | some c => some ((if c = '/' then cs ++ ['*', '*'] else cs).dropWhile (· == '/'))

def ofText? (s : String) : Option Pattern :=
  (normalText? s).map fun cs => ⟨String.ofList cs, piecesOf cs⟩

def ofTexts (ss : List String) : List Pattern := ss.filterMap ofText?

def rests (test : Char → Bool) : List Char → List (List Char)
  | [] => [[]]
  | c :: cs => (c :: cs) :: if test c then rests test cs else []

def withinName (c : Char) : Bool := c != '/'

def withinLine (c : Char) : Bool := c != '\n'

def matchPieces : List Piece → List Char → Bool
  | [], cs => cs.isEmpty
  | .char c :: ps, cs =>
    match cs with
    | d :: ds => d == c && matchPieces ps ds
    | [] => false
  | .one :: ps, cs =>
    match cs with
    | d :: ds => withinName d && matchPieces ps ds
    | [] => false
  | .run :: ps, cs => (rests withinName cs).any (matchPieces ps)
  | .any :: ps, cs => (rests withinLine cs).any (matchPieces ps)
  | .leading :: ps, cs =>
    matchPieces ps cs || (rests withinLine cs).any fun r =>
      match r with
      | '/' :: ds => matchPieces ps ds
      | _ => false
  | .trailing :: ps, cs =>
    matchPieces ps cs ||
      match cs with
      | '/' :: ds => (rests withinLine ds).any (matchPieces ps)
      | _ => false

def fits (p : Pattern) (path : String) : Bool := matchPieces p.pieces path.toList

def anyFits (ps : List Pattern) (path : String) : Bool := ps.any (·.fits path)

theorem mem_rests {test : Char → Bool} {cs r : List Char} :
    r ∈ rests test cs ↔ ∃ run, cs = run ++ r ∧ run.all test = true := by
  induction cs with
  | nil =>
    simp only [rests, List.mem_singleton]
    refine ⟨fun h => ⟨[], by simp [h], rfl⟩, ?_⟩
    rintro ⟨run, h, _⟩
    exact (List.append_eq_nil_iff.1 h.symm).2
  | cons c cs ih =>
    simp only [rests, List.mem_cons]
    constructor
    · rintro (rfl | h)
      · exact ⟨[], rfl, rfl⟩
      · split at h
        · obtain ⟨run, rfl, h'⟩ := ih.1 h
          exact ⟨c :: run, rfl, by simp_all⟩
        · simp at h
    · rintro ⟨run, h, hrun⟩
      cases run with
      | nil => exact .inl h.symm
      | cons d run =>
        obtain ⟨rfl, rfl⟩ := List.cons.inj h
        simp only [List.all_cons, Bool.and_eq_true] at hrun
        exact .inr (by simp only [hrun.1, if_true]; exact ih.2 ⟨run, rfl, hrun.2⟩)

theorem ofText?_eq_none {s : String} : ofText? s = none ↔ Text.isBlankText s = true := by
  rw [ofText?, Option.map_eq_none_iff, normalText?, Text.isBlankText, ← Text.trimChars_eq_nil,
    ← List.map_eq_nil_iff (f := slashed), ← List.getLast?_eq_none_iff]
  cases ((Text.trimChars s.toList).map slashed).getLast? <;> simp

end Pattern

end ComponentBuild
