import ComponentBuild.Text.Capital
import ComponentBuild.Text.Cased

namespace ComponentBuild.Text

def endsWord (before after : List Char) : Bool :=
  (before.dropWhile isPassed).head?.any isCased && !(after.dropWhile isPassed).head?.any isCased

def lowerAt (before : List Char) (c : Char) (after : List Char) : List Char :=
  if c = 'Σ' then [if endsWord before after then 'ς' else 'σ']
  else if c = 'İ' then ['i', '\u0307']
  else [smallChar c]

def lowerFrom (before : List Char) : List Char → List Char
  | [] => []
  | c :: cs => lowerAt before c cs ++ lowerFrom (c :: before) cs

def lower (s : String) : String := String.ofList (lowerFrom [] s.toList)

end ComponentBuild.Text
