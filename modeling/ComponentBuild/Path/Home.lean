import ComponentBuild.Path.Basic

namespace ComponentBuild

structure Home where
  own : Path
  users : List (String × Path)

inductive HomeFault
  | unknownUser (user : String)
  | nullByte
  deriving DecidableEq

def HomeFault.message : HomeFault → String
  | unknownUser _ => "Could not determine home directory."
  | nullByte => nullByteText

def Home.directory? (home : Home) (user : String) : Option Path :=
  if user = "" then some home.own else home.users.lookup user

namespace Path

def homeUser? (p : Path) : Option (String × List Segment) :=
  match p.anchor, p.segments with
  | .relative, .entry n :: rest =>
    match n.text.toList with
    | '~' :: user => some (String.ofList user, rest)
    | _ => none
  | _, _ => none

def expandHome (home : Home) (p : Path) : Except HomeFault Path :=
  match p.homeUser? with
  | none => .ok p
  | some (user, rest) =>
    if '\x00' ∈ user.toList then .error .nullByte
    else match home.directory? user with
      | none => .error (.unknownUser user)
      | some d => .ok ⟨d.anchor, d.segments ++ rest⟩

def expandKnownHome (home : Home) (p : Path) : Except HomeFault Path :=
  match p.expandHome home with
  | .error (.unknownUser _) => .ok p
  | found => found

theorem expandHome_of_homeUser?_eq_none {p : Path} (home : Home) (h : p.homeUser? = none) :
    p.expandHome home = .ok p := by
  simp [expandHome, h]

theorem homeUser?_absolute {p : Path} (h : p.isAbsolute = true) : p.homeUser? = none := by
  unfold homeUser?
  split
  · simp_all [isAbsolute]
  · rfl

end Path

end ComponentBuild
