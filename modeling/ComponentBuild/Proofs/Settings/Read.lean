import ComponentBuild.Proofs.Fallible
import ComponentBuild.Settings.Load

namespace ComponentBuild

theorem Value.sameKey_text {v : Value} {name : String} :
    v.sameKey (.text name) = true ↔ v = .text name := by
  have hname : (text name).wholeNumber? = none := rfl
  unfold sameKey
  rw [hname]
  cases hv : v.wholeNumber? with
  | some i =>
    have hne : v ≠ text name := by
      rintro rfl
      cases hv
    simp [hne]
  | none => cases v <;> simp

namespace Settings

variable {home : Home} {root : Path} {pairs : List (Value × Value)} {c : Settings}

structure Describes (home : Home) (root : Path) (pairs : List (Value × Value)) (c : Settings) :
    Prop where
  rooted : c.root = root
  sourceDirectory : asPath? home root (field pairs "srcdir") = .ok c.sourceDirectory
  outputDirectory : asPath? home root (field pairs "destdir") = .ok c.outputDirectory
  classpath : asPaths home root (field pairs "classpath") = .ok c.classpath
  descriptor : ∃ name, asText? (field pairs "final_name") = .ok name ∧
    (nonempty name).getD usualDescriptor = c.descriptor
  metadata : ∃ name, asText? (field pairs "metatype_name") = .ok name ∧
    (nonempty name).getD usualMetadata = c.metadata
  generateAccessors : (asBool? (field pairs "generate_accessors")).getD true = c.generateAccessors
  strictMode : (asBool? (field pairs "strict_mode")).getD false = c.strictMode
  specVersion : ∃ version, asText? (field pairs "spec_version") = .ok version ∧
    version.map .text = c.specVersion
  annotationProcessors :
    asGivens (field pairs "annotation_processors") = .ok c.annotationProcessors
  includes : asGivens (field pairs "includes") = .ok c.includes
  excludes : asGivens (field pairs "excludes") = .ok c.excludes
  defaultExcludes : (asBool? (field pairs "default_excludes")).getD true = c.defaultExcludes
  properties : asProperties (field pairs "properties") = .ok c.properties
  generator : asText? (field pairs "generator") = .ok c.generator

theorem ofPairs_eq_ok : ofPairs home root pairs = .ok c ↔ Describes home root pairs c := by
  simp only [ofPairs, bind_eq_ok]
  constructor
  · rintro ⟨descriptor, hdescriptor, metadata, hmetadata, source, hsource, output, houtput, classpath,
      hclasspath, version, hversion, processors, hprocessors, includes, hincludes, excludes,
      hexcludes, properties, hproperties, generator, hgenerator, hc⟩
    obtain rfl := Except.ok.inj hc
    exact ⟨rfl, hsource, houtput, hclasspath, ⟨_, hdescriptor, rfl⟩, ⟨_, hmetadata, rfl⟩, rfl, rfl,
      ⟨_, hversion, rfl⟩, hprocessors, hincludes, hexcludes, rfl, hproperties, hgenerator⟩
  · intro h
    obtain ⟨name, hname, hdescriptor⟩ := h.descriptor
    obtain ⟨other, hother, hmetadata⟩ := h.metadata
    obtain ⟨version, hversion, hspec⟩ := h.specVersion
    refine ⟨_, hname, _, hother, _, h.sourceDirectory, _, h.outputDirectory, _, h.classpath, _,
      hversion, _, h.annotationProcessors, _, h.includes, _, h.excludes, _, h.properties, _,
      h.generator, ?_⟩
    rw [hdescriptor, hmetadata, hspec, h.generateAccessors, h.strictMode, h.defaultExcludes, ← h.rooted]
    rfl

def without (name : String) (pairs : List (Value × Value)) : List (Value × Value) :=
  pairs.filter fun p => !p.1.sameKey (.text name)

theorem field_without {name other : String} (h : other ≠ name)
    (pairs : List (Value × Value)) : field (without name pairs) other = field pairs other := by
  simp only [field, without, List.find?_filter]
  congr 3
  funext p
  cases hp : p.1.sameKey (.text other) with
  | false => simp
  | true =>
    rw [Value.sameKey_text] at hp
    have hname : p.1.sameKey (.text name) = false := by
      rw [Bool.eq_false_iff, ne_eq, Value.sameKey_text, hp]
      simpa using h
    simp [hname]

theorem field_without_self (name : String) (pairs : List (Value × Value)) :
    field (without name pairs) name = .null := by
  have hnone : (without name pairs).find? (fun p => p.1.sameKey (.text name)) = none := by
    rw [List.find?_eq_none]
    intro p hp
    simpa using (List.mem_filter.1 hp).2
  rw [field, hnone]
  rfl

theorem Describes.of_without {base : Settings} {paths : List Path}
    (h : Describes home root (without "classpath" pairs) base)
    (hp : asPaths home root (field pairs "classpath") = .ok paths) :
    Describes home root pairs { base with classpath := paths } := by
  have hfield {name : String} (hname : name ≠ "classpath") :=
    (field_without hname pairs).symm
  constructor
  case classpath => exact hp
  case rooted => exact h.rooted
  all_goals rw [hfield (by decide)]
  · exact h.sourceDirectory
  · exact h.outputDirectory
  · exact h.descriptor
  · exact h.metadata
  · exact h.generateAccessors
  · exact h.strictMode
  · exact h.specVersion
  · exact h.annotationProcessors
  · exact h.includes
  · exact h.excludes
  · exact h.defaultExcludes
  · exact h.properties
  · exact h.generator

structure Reads (host : Host) (p file : Path) (pairs : List (Value × Value)) : Prop where
  found : filePath host p = .ok file
  stands : host.exists? file = .ok true
  holds : readValue host file = .ok (.map pairs)

theorem load_eq_of_reads {host : Host} {p file : Path} (h : Reads host p file pairs) :
    load host p = (ofPairs host.home file.parent pairs).mapError .field := by
  simp only [load, h.found, h.stands, readFile, h.holds]
  cases ofPairs host.home file.parent pairs with
  | error fault => rfl
  | ok c => rfl

theorem load_of_reads {host : Host} {p file : Path} (h : Reads host p file pairs) :
    load host p = .ok c ↔ Describes host.home file.parent pairs c := by
  rw [load_eq_of_reads h, mapError_eq_ok, ofPairs_eq_ok]

section Held

mutual

def sameValue : Value → Value → Bool
  | .null, .null => true
  | .bool b, .bool c => b == c
  | .text s, .text t => s == t
  | .list vs, .list ws => sameValues vs ws
  | .map ps, .map qs => samePairs ps qs
  | _, _ => false

def sameValues : List Value → List Value → Bool
  | [], [] => true
  | v :: vs, w :: ws => sameValue v w && sameValues vs ws
  | _, _ => false

def samePairs : List (Value × Value) → List (Value × Value) → Bool
  | [], [] => true
  | (k, v) :: ps, (l, w) :: qs => sameValue k l && sameValue v w && samePairs ps qs
  | _, _ => false

end

mutual

theorem eq_of_sameValue (v w : Value) (h : sameValue v w = true) : v = w := by
  unfold sameValue at h
  split at h
  · rfl
  · rw [eq_of_beq h]
  · rw [eq_of_beq h]
  · rw [eq_of_sameValues _ _ h]
  · rw [eq_of_samePairs _ _ h]
  · cases h

theorem eq_of_sameValues (vs ws : List Value) (h : sameValues vs ws = true) : vs = ws := by
  unfold sameValues at h
  split at h
  · rfl
  · obtain ⟨hv, hvs⟩ := Bool.and_eq_true_iff.1 h
    rw [eq_of_sameValue _ _ hv, eq_of_sameValues _ _ hvs]
  · cases h

theorem eq_of_samePairs (ps qs : List (Value × Value)) (h : samePairs ps qs = true) : ps = qs := by
  unfold samePairs at h
  split at h
  · rfl
  · obtain ⟨hp, hps⟩ := Bool.and_eq_true_iff.1 h
    obtain ⟨hk, hv⟩ := Bool.and_eq_true_iff.1 hp
    rw [eq_of_sameValue _ _ hk, eq_of_sameValue _ _ hv, eq_of_samePairs _ _ hps]
  · cases h

end

def holds (host : Host) (file : Path) (pairs : List (Value × Value)) : Bool :=
  match readValue host file with
  | .ok (.map found) => samePairs found pairs
  | _ => false

theorem readValue_of_holds {host : Host} {file : Path} {pairs : List (Value × Value)}
    (h : holds host file pairs = true) : readValue host file = .ok (.map pairs) := by
  unfold holds at h
  split at h
  · rename_i found hread
    rw [hread, eq_of_samePairs _ _ h]
  · cases h

def textPairs (ps : List (String × String)) : List (Value × Value) :=
  ps.map fun p => (.text p.1, .text p.2)

end Held

end Settings

end ComponentBuild
