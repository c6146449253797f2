import ComponentBuild.Text.Blank
import ComponentBuild.Text.Pieces

namespace ComponentBuild.Text

def parts (mark : Char) (s : String) : List String :=
  ((split mark s).filter fun part => !isBlankText part).map trim

theorem split_append (mark : Char) (a b : String) :
    split mark (a ++ String.singleton mark ++ b) = split mark a ++ split mark b := by
  have hchars : (a ++ String.singleton mark ++ b).toList = a.toList ++ mark :: b.toList := by
    simp
  rw [split, hchars, pieces_append, List.map_append]
  rfl

theorem parts_append (mark : Char) (a b : String) :
    parts mark (a ++ String.singleton mark ++ b) = parts mark a ++ parts mark b := by
  rw [parts, split_append, List.filter_append, List.map_append]
  rfl

theorem not_mem_of_mem_split {mark : Char} {s part : String} (h : part ∈ split mark s) :
    mark ∉ part.toList := by
  obtain ⟨cs, hcs, rfl⟩ := List.mem_map.1 h
  rw [String.toList_ofList]
  exact not_mem_of_mem_pieces hcs

end ComponentBuild.Text
