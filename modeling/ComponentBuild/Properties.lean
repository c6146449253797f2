import ComponentBuild.Text.Order

namespace ComponentBuild

abbrev Properties := List (String × String)

namespace Properties

def put (name value : String) : Properties → Properties
  | [] => [(name, value)]
  | (n, v) :: rest => if n = name then (n, value) :: rest else (n, v) :: put name value rest

def putAll (ps : Properties) (pairs : List (String × String)) : Properties :=
  pairs.foldl (fun ps pair => ps.put pair.1 pair.2) ps

def ofPairs (pairs : List (String × String)) : Properties := putAll [] pairs

def sorted (ps : Properties) : Properties := Text.sortBy Prod.fst ps

theorem lookup_put (ps : Properties) (name value n : String) :
    (ps.put name value).lookup n = if n = name then some value else ps.lookup n := by
  induction ps with
  | nil =>
    by_cases h : n = name
    · simp [put, h]
    · have h' : (n == name) = false := by simpa using h
      simp [put, List.lookup_cons, h, h']
  | cons p ps ih =>
    obtain ⟨m, v⟩ := p
    simp only [put]
    split
    · rename_i hm
      subst hm
      by_cases h : n = m
      · simp [h]
      · have h' : (n == m) = false := by simpa using h
        simp [List.lookup_cons, h, h']
    · rename_i hm
      by_cases h : n = m
      · subst h
        simp [hm]
      · have h' : (n == m) = false := by simpa using h
        simp [List.lookup_cons, h', ih]

end Properties

end ComponentBuild
