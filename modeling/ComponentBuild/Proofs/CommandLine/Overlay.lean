import ComponentBuild.CommandLine.Program
import ComponentBuild.Proofs.Fallible

namespace ComponentBuild

theorem Given.optional_required_eq_ok {fault : GivenFault} {g : Option Given}
    {text : Option String} :
    g.mapM (Given.required fault) = .ok text ↔ g = text.map .text := by
  cases g with
  | none => cases text <;> simp [pure, Except.pure]
  | some g => cases g <;> cases text <;> simp [required, Functor.map, Except.map]

namespace CommandLine

theorem pairsFrom_eq_ok {place : Nat} {given : List (Option (String × String))}
    {pairs : List (String × String)} :
    pairsFrom place given = .ok pairs ↔ given = pairs.map some := by
  induction given generalizing place pairs with
  | nil => cases pairs <;> simp [pairsFrom]
  | cons pair given ih =>
    cases pair with
    | none => cases pairs <;> simp [pairsFrom]
    | some pair =>
      rw [pairsFrom, map_eq_ok]
      simp only [ih]
      cases pairs <;> simp [and_comm]

namespace GenerateArguments

variable {a : GenerateArguments} {c c' : Settings}

theorem overlay_eq_ok :
    a.overlay c = .ok c' ↔
      ∃ (output : Option String) (classpath : List String) (properties : List (String × String)),
        a.outputDirectory = output.map .text ∧ a.classpath = classpath.map .text ∧ a.properties = properties.map some ∧
        c' = { c with
          sourceDirectory := (a.sourceDirectory.map Path.ofText).or c.sourceDirectory
          outputDirectory := (output.map Path.ofText).or c.outputDirectory
          classpath := c.classpath ++ classpath.flatMap classpathPaths
          descriptor := override c.descriptor a.descriptor
          metadata := override c.metadata a.metadata
          generateAccessors := a.generateAccessors.getD c.generateAccessors
          strictMode := a.strictMode.getD c.strictMode
          specVersion := a.specVersion.or c.specVersion
          annotationProcessors := c.annotationProcessors ++ a.annotationProcessors
          includes := c.includes ++ a.includes
          excludes := c.excludes ++ a.excludes
          defaultExcludes := c.defaultExcludes && a.defaultExcludes
          properties := c.properties.putAll properties
          generator := (a.generator.bind Given.nonempty?).or c.generator } := by
  simp only [overlay, bind_eq_ok, Given.optional_required_eq_ok, Given.mapM_required_eq_ok,
    pairsFrom_eq_ok]
  constructor
  · rintro ⟨output, houtput, classpath, hclasspath, properties, hproperties, hc⟩
    exact ⟨output, classpath, properties, houtput, hclasspath, hproperties, (Except.ok.inj hc).symm⟩
  · rintro ⟨output, classpath, properties, houtput, hclasspath, hproperties, rfl⟩
    exact ⟨output, houtput, classpath, hclasspath, properties, hproperties, rfl⟩

end GenerateArguments

end CommandLine

end ComponentBuild
