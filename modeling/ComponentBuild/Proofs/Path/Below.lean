import ComponentBuild.SourceSet.Listing
import ComponentBuild.Tree.Canonical

namespace ComponentBuild

theorem Text.intercalate_concat {mark : String} {ss : List String} (h : ss ≠ []) (s : String) :
    mark.intercalate (ss ++ [s]) = mark.intercalate ss ++ mark ++ s := by
  rw [String.intercalate_append_of_ne_nil h (by simp), String.intercalate_singleton]

theorem Segment.text_ne_empty (s : Segment) : s.text ≠ "" := by
  cases s with
  | up => decide
  | entry n => exact n.isName.1

theorem Name.slash_not_mem_text (n : Name) : '/' ∉ n.text.toList := n.isName.2.2.2

theorem Segment.slash_not_mem_text (s : Segment) : '/' ∉ s.text.toList := by
  cases s with
  | up => decide
  | entry n => exact n.slash_not_mem_text

namespace Name

def repeated (c : Char) (k : Nat) (hc : c ≠ '/') (hk : 2 < k) : Name where
  text := String.ofList (List.replicate k c)
  isName := by
    have hlen : (String.ofList (List.replicate k c)).toList.length = k := by
      rw [String.toList_ofList, List.length_replicate]
    refine ⟨?_, ?_, ?_, ?_⟩
    · intro he
      simp [he] at hlen
      omega
    · intro he
      simp [he] at hlen
      omega
    · intro he
      simp [he] at hlen
      omega
    · rw [String.toList_ofList, List.mem_replicate]
      intro h
      exact hc h.2.symm

theorem not_mem_repeated {c d : Char} {k : Nat} (hc : c ≠ '/') (hk : 2 < k) (hd : d ≠ c) :
    d ∉ (repeated c k hc hk).text.toList := by
  rw [repeated, String.toList_ofList, List.mem_replicate]
  intro h
  exact hd h.2

theorem size_repeated (c : Char) (k : Nat) (hc : c ≠ '/') (hk : 2 < k) :
    (repeated c k hc hk).text.utf8ByteSize = k * c.utf8Size := by
  have hsize (j : Nat) : (String.ofList (List.replicate j c)).utf8ByteSize = j * c.utf8Size := by
    induction j with
    | zero => simp
    | succ j ih =>
      rw [List.replicate_succ, String.ofList_cons, String.utf8ByteSize_append, ih,
        String.utf8ByteSize_singleton, Nat.succ_mul, Nat.add_comm]
  exact hsize k

end Name

namespace Path

variable {p : Path}

@[simp] theorem below_nil (p : Path) : p.below [] = p := by
  simp [below]

theorem below_cons (p : Path) (n : Name) (ns : List Name) :
    p.below (n :: ns) = (p.child n).below ns := by
  simp [below, child]

theorem below_concat (p : Path) (ns : List Name) (n : Name) :
    p.below (ns ++ [n]) = (p.below ns).child n := by
  simp [below, child]

theorem below_injective (p : Path) {ns ms : List Name} (h : p.below ns = p.below ms) : ns = ms := by
  simp only [below, mk.injEq, true_and, List.append_cancel_left_eq] at h
  exact (List.map_inj_right fun n m hnm => Segment.entry.inj hnm).1 h

theorem isAbsolute_below (h : p.isAbsolute = true) (ns : List Name) :
    (p.below ns).isAbsolute = true := h

theorem text_of_isAbsolute (h : p.isAbsolute = true) :
    p.text = p.anchor.text ++ "/".intercalate (p.segments.map Segment.text) := by
  have hne : p ≠ here := by
    rintro rfl
    simp [here, isAbsolute] at h
  rw [text, if_neg hne]

theorem ofLocation_below (loc : Location) (ns : List Name) :
    (ofLocation loc).below ns = ofLocation (loc ++ ns) := by
  simp [below, ofLocation]

theorem text_append (h : p.isAbsolute = true) (hs : p.segments ≠ []) {rest : List Segment}
    (hr : rest ≠ []) :
    (p.append rest).text = p.text ++ "/" ++ "/".intercalate (rest.map Segment.text) := by
  have hp : p.segments.map Segment.text ≠ [] := by simpa using hs
  have hr' : rest.map Segment.text ≠ [] := by simpa using hr
  have hi := String.intercalate_append_of_ne_nil (s := "/") hp hr'
  rw [text_of_isAbsolute h, text_of_isAbsolute (p := p.append rest) h]
  simp only [append, List.map_append, hi, String.append_assoc]

theorem text_child (h : p.isAbsolute = true) (hs : p.segments ≠ []) (n : Name) :
    (p.child n).text = p.text ++ "/" ++ n.text := by
  have ht : (p.append [.entry n]).text = _ := text_append h hs (by simp)
  rw [List.map_singleton, String.intercalate_singleton] at ht
  exact ht

theorem size_text_child (h : p.isAbsolute = true) (hs : p.segments ≠ []) (n : Name) :
    (p.child n).text.utf8ByteSize = p.text.utf8ByteSize + n.text.utf8ByteSize + 1 := by
  have hslash : "/".utf8ByteSize = 1 := rfl
  rw [text_child h hs, String.utf8ByteSize_append, String.utf8ByteSize_append, hslash]
  omega

theorem size_text_below (h : p.isAbsolute = true) (ns : List Name) :
    p.text.utf8ByteSize ≤ (p.below ns).text.utf8ByteSize := by
  by_cases hp : p.segments = []
  · rw [text_of_isAbsolute h, text_of_isAbsolute (isAbsolute_below h ns)]
    simp [below, hp]
  · by_cases hn : ns = []
    · subst hn
      simp
    · have ht : (p.append (ns.map .entry)).text = _ := text_append h hp (by simpa using hn)
      rw [below, ← append, ht, String.utf8ByteSize_append, String.utf8ByteSize_append]
      omega

theorem fault?_of_below (h : p.isAbsolute = true) {ns : List Name}
    (hf : (p.below ns).fault? = none) : p.fault? = none := by
  unfold fault? at hf ⊢
  have hsize := size_text_below h ns
  by_cases hnull : (p.below ns).hasNullByte = true
  · simp [hnull] at hf
  · have hp : p.hasNullByte = false := by
      simp only [hasNullByte, below, List.any_append, Bool.or_eq_true, not_or] at hnull
      simpa [hasNullByte] using hnull.1
    simp only [hnull, Bool.false_eq_true, if_false, ite_eq_right_iff, reduceCtorEq, imp_false,
      Nat.not_le] at hf
    rw [hp, if_neg (by simp), if_neg (by omega)]

end Path

end ComponentBuild
