import ComponentBuild.Text.Quoted

namespace ComponentBuild

inductive Given
  | text (s : String)
  | nothing
  deriving DecidableEq

inductive GivenFault
  | outputDirectory
  | classpath
  | pattern
  | property (place : Nat)
  deriving DecidableEq

def GivenFault.message : GivenFault → String
  | outputDirectory => "expected str, bytes or os.PathLike object, not list"
  | classpath => "'list' object has no attribute 'split'"
  | pattern => "'list' object has no attribute 'strip'"
  | property place =>
    s!"dictionary update sequence element #{place} has length 0; 2 is required"

namespace Given

def ofAttached (s : String) : Given := if s = "--" then .nothing else .text s

def text? : Given → Option String
  | text s => some s
  | nothing => none

def nonempty? (g : Given) : Option String := g.text?.filter (· ≠ "")

def required (fault : GivenFault) : Given → Except GivenFault String
  | text s => .ok s
  | nothing => .error fault

def nothingText : String := "[]"

def display : Given → String
  | text s => s
  | nothing => nothingText

def shown : Given → String
  | text s => Text.quoted s
  | nothing => nothingText

def shownList (gs : List Given) : String := Text.bracketed (gs.map shown)

end Given

end ComponentBuild
