import ComponentBuild.Path.Basic

namespace ComponentBuild

inductive ClassNameFault
  | notBelow (file root : Path)
  | notSource (file : Path)
  deriving DecidableEq

def ClassNameFault.message : ClassNameFault → String
  | notBelow file root => s!"{file.text} is not below {root.text}"
  | notSource file => s!"{file.text} is not a source file"

namespace ClassName

def sourceEnding : String := ".java"

def isSourceText (cs : List Char) : Bool := sourceEnding.toList.isSuffixOf cs

def withoutEnding (cs : List Char) : List Char := cs.take (cs.length - sourceEnding.length)

def dotted (c : Char) : Char := if c = '/' then '.' else c

def rootStart (root : Path) : List Char :=
  (root.text.toList.reverse.dropWhile (· == '/')).reverse ++ ['/']

def derive (file root : Path) : Except ClassNameFault String :=
  let start := rootStart root
  let cs := file.text.toList
  if !start.isPrefixOf cs then .error (.notBelow file root)
  else if !isSourceText cs then .error (.notSource file)
  else .ok (String.ofList (withoutEnding ((cs.drop start.length).map dotted)))

end ClassName

end ComponentBuild
