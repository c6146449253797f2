import ComponentBuild.Properties

namespace ComponentBuild.Properties

variable {ps : Properties}

theorem lookup_eq_some_of_nodup {α : Type} {pairs : List (String × α)}
    (h : (pairs.map Prod.fst).Nodup) {name : String} {value : α} :
    pairs.lookup name = some value ↔ (name, value) ∈ pairs := by
  rw [List.lookup_eq_some_iff]
  constructor
  · rintro ⟨before, after, rfl, -⟩
    simp
  · intro hmem
    obtain ⟨before, after, rfl⟩ := List.append_of_mem hmem
    refine ⟨before, after, rfl, ?_⟩
    intro p hp
    rw [List.map_append, List.nodup_append] at h
    have hne := h.2.2 p.1 (List.mem_map_of_mem hp) name (by simp)
    simpa using hne.symm

theorem mem_names_put {name value n : String} :
    n ∈ (ps.put name value).map Prod.fst ↔ n = name ∨ n ∈ ps.map Prod.fst := by
  induction ps with
  | nil => simp [put]
  | cons p ps ih =>
    rw [put]
    split
    · rename_i h
      simp [h]
    · rw [List.map_cons, List.mem_cons, ih, List.map_cons, List.mem_cons]
      exact or_left_comm

theorem names_put_nodup (name value : String) (h : (ps.map Prod.fst).Nodup) :
    ((ps.put name value).map Prod.fst).Nodup := by
  induction ps with
  | nil => simp [put]
  | cons p ps ih =>
    rw [put]
    split
    · exact h
    · rename_i hne
      rw [List.map_cons, List.nodup_cons] at h ⊢
      rw [mem_names_put, not_or]
      exact ⟨⟨hne, h.1⟩, ih h.2⟩

theorem names_putAll_nodup (pairs : List (String × String)) (h : (ps.map Prod.fst).Nodup) :
    ((ps.putAll pairs).map Prod.fst).Nodup := by
  induction pairs generalizing ps with
  | nil => exact h
  | cons pair pairs ih => exact ih (names_put_nodup _ _ h)

theorem lookup_putAll (ps : Properties) (pairs : List (String × String)) (name : String) :
    (ps.putAll pairs).lookup name = (pairs.reverse.lookup name).or (ps.lookup name) := by
  induction pairs generalizing ps with
  | nil => simp [putAll]
  | cons pair pairs ih =>
    obtain ⟨n, v⟩ := pair
    have hrest := ih (ps.put n v)
    have hsingle : List.lookup name [(n, v)] = if name = n then some v else none := by
      by_cases h : name = n
      · simp [h]
      · have hne : (name == n) = false := by simpa using h
        simp [List.lookup_cons, h, hne]
    rw [putAll, List.foldl_cons, ← putAll, hrest, lookup_put, List.reverse_cons,
      List.lookup_append, Option.or_assoc, hsingle]
    split <;> simp

theorem lookup_ofPairs (pairs : List (String × String)) (name : String) :
    (ofPairs pairs).lookup name = pairs.reverse.lookup name := by
  rw [ofPairs, lookup_putAll]
  simp

theorem put_of_not_mem {name : String} (value : String) (h : name ∉ ps.map Prod.fst) :
    ps.put name value = ps ++ [(name, value)] := by
  induction ps with
  | nil => rfl
  | cons p ps ih =>
    simp only [List.map_cons, List.mem_cons, not_or] at h
    rw [put, if_neg (Ne.symm h.1), ih h.2]
    rfl

theorem putAll_of_nodup (ps : Properties) {pairs : List (String × String)}
    (h : ((ps ++ pairs).map Prod.fst).Nodup) : ps.putAll pairs = ps ++ pairs := by
  induction pairs generalizing ps with
  | nil => simp [putAll]
  | cons pair pairs ih =>
    have hnew : pair.1 ∉ ps.map Prod.fst := by
      rw [List.map_append, List.nodup_append] at h
      intro hmem
      exact h.2.2 _ hmem pair.1 List.mem_cons_self rfl
    rw [putAll, List.foldl_cons, ← putAll, put_of_not_mem _ hnew, ih]
    · simp
    · simpa using h

theorem ofPairs_of_nodup {pairs : List (String × String)} (h : (pairs.map Prod.fst).Nodup) :
    ofPairs pairs = pairs :=
  putAll_of_nodup [] h

end ComponentBuild.Properties
