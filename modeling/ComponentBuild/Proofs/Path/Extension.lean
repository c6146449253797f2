import ComponentBuild.Proofs.Path.Text
import ComponentBuild.Text.Parts

namespace ComponentBuild.Path

variable {p q : Path}

theorem ofChars_text_append (h : p.isAbsolute = true) (hs : p.segments ≠ []) (cs : List Char) :
    Anchor.ofChars (p.text.toList ++ cs) = p.anchor := by
  have hhead := head?_intercalate_ne p.segments
  have hsome : ("/".intercalate (p.segments.map Segment.text)).toList ≠ [] := by
    obtain ⟨s, ss, hss⟩ := List.exists_cons_of_ne_nil hs
    have hne := s.text_ne_empty
    rw [hss, String.toList_intercalate]
    cases ss <;> simp [List.intercalate, hne]
  obtain ⟨c, ds, hc⟩ := List.exists_cons_of_ne_nil hsome
  rw [text_of_isAbsolute h, String.toList_append, List.append_assoc]
  apply ofChars_anchor
  rw [hc] at hhead ⊢
  exact hhead

theorem ofText_append (h : p.isAbsolute = true) (hs : p.segments ≠ []) (more : String) :
    ofText (p.text ++ "/" ++ more) =
      p.append ((Text.split '/' more).filterMap Segment.ofText?) := by
  have hp : (Text.split '/' p.text).filterMap Segment.ofText? = p.segments :=
    congrArg Path.segments (ofText_text p)
  have hsplit : Text.split '/' (p.text ++ "/" ++ more) =
      Text.split '/' p.text ++ Text.split '/' more := Text.split_append '/' p.text more
  rw [ofText, hsplit, List.filterMap_append, hp, String.toList_append, String.toList_append,
    List.append_assoc, ofChars_text_append h hs]
  rfl

theorem append_nil (p : Path) : p.append [] = p := by
  simp [append]

theorem text_eq_append_iff (h : p.isAbsolute = true) (hs : p.segments ≠ []) {more : String} :
    q.text = p.text ++ "/" ++ more ↔
      ∃ rest, rest ≠ [] ∧ q = p.append rest ∧ more = "/".intercalate (rest.map Segment.text) := by
  constructor
  · intro ht
    have hq : q = p.append ((Text.split '/' more).filterMap Segment.ofText?) := by
      rw [← ofText_append h hs, ← ht, ofText_text]
    have hrest : (Text.split '/' more).filterMap Segment.ofText? ≠ [] := by
      intro hnil
      have hlen := congrArg String.length ht
      have hslash : "/".length = 1 := rfl
      rw [hq, hnil, append_nil, String.length_append, String.length_append, hslash] at hlen
      omega
    refine ⟨_, hrest, hq, ?_⟩
    rw [hq, text_append h hs hrest] at ht
    exact String.append_right_inj _ |>.1 ht.symm
  · rintro ⟨rest, hr, rfl, rfl⟩
    exact text_append h hs hr

end ComponentBuild.Path
