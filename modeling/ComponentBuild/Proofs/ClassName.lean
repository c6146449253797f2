import ComponentBuild.Proofs.Path.Below

namespace ComponentBuild

namespace Path

variable {p : Path}

theorem text_suffix {ss : List Segment} {s : Segment} (h : p.isAbsolute = true)
    (hs : p.segments = ss ++ [s]) : s.text.toList <:+ p.text.toList := by
  rw [text_of_isAbsolute h, hs]
  cases ss with
  | nil => simp
  | cons r ss =>
    rw [List.map_append, List.map_singleton, Text.intercalate_concat (by simp),
      String.toList_append, String.toList_append]
    simp [← List.append_assoc]

theorem text_eq_concat {ss : List Segment} {s : Segment} (h : p.isAbsolute = true)
    (hs : p.segments = ss ++ [s]) : ∃ c cs, p.text.toList = cs ++ [c] ∧ c ≠ '/' := by
  obtain ⟨u, hu⟩ := text_suffix h hs
  have hne : s.text.toList ≠ [] := by simpa using s.text_ne_empty
  obtain ⟨init, c, hc⟩ : ∃ init c, s.text.toList = init ++ [c] :=
    ⟨_, _, (List.dropLast_concat_getLast hne).symm⟩
  have htext : p.text.toList = u ++ init ++ [c] := by
    rw [← hu, hc, List.append_assoc]
  have hslash : c ≠ '/' := by
    rintro rfl
    apply s.slash_not_mem_text
    simp [hc]
  exact ⟨c, u ++ init, htext, hslash⟩

end Path

namespace ClassName

variable {root : Path}

theorem rootStart_of_ne_top (h : root.isAbsolute = true) (hs : root.segments ≠ []) :
    rootStart root = (root.text ++ "/").toList := by
  obtain ⟨ss, s, hss⟩ := (List.eq_nil_or_concat root.segments).resolve_left hs
  obtain ⟨c, cs, hc, hslash⟩ := Path.text_eq_concat h (hss.trans List.concat_eq_append)
  simp [rootStart, hc, hslash]

theorem rootStart_of_top (h : root.isAbsolute = true) (hs : root.segments = []) :
    rootStart root = ['/'] := by
  have ht := Path.text_of_isAbsolute h
  obtain ⟨anchor, segments⟩ := root
  subst hs
  cases anchor with
  | relative => simp [Path.isAbsolute] at h
  | root => simp [rootStart, ht, Anchor.text]
  | doubleRoot => simp [rootStart, ht, Anchor.text]

end ClassName

end ComponentBuild
