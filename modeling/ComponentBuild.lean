import ComponentBuild.Main
import ComponentBuild.Proofs.ClassName.Naming
import ComponentBuild.Proofs.Classpath.Additions
import ComponentBuild.Proofs.Classpath.Contexts
import ComponentBuild.Proofs.Classpath.Entries
import ComponentBuild.Proofs.Classpath.Lifetime
import ComponentBuild.Proofs.Classpath.ReadBack
import ComponentBuild.Proofs.CommandLine.Directories
import ComponentBuild.Proofs.CommandLine.Endings
import ComponentBuild.Proofs.CommandLine.Heard
import ComponentBuild.Proofs.CommandLine.Moved
import ComponentBuild.Proofs.CommandLine.Overlay
import ComponentBuild.Proofs.CommandLine.Parsed
import ComponentBuild.Proofs.CommandLine.Precedence
import ComponentBuild.Proofs.CommandLine.Recorded
import ComponentBuild.Proofs.CommandLine.Reported
import ComponentBuild.Proofs.CommandLine.Routes
import ComponentBuild.Proofs.CommandLine.SettingsFaults
import ComponentBuild.Proofs.CommandLine.Told
import ComponentBuild.Proofs.Generator.Choice
import ComponentBuild.Proofs.Generator.EntryPoint
import ComponentBuild.Proofs.Generator.Provided
import ComponentBuild.Proofs.Generator.Reference
import ComponentBuild.Proofs.Log.Written
import ComponentBuild.Proofs.Path.Extension
import ComponentBuild.Proofs.Pattern.Anywhere
import ComponentBuild.Proofs.Pattern.Itself
import ComponentBuild.Proofs.Pattern.Segments
import ComponentBuild.Proofs.Properties
import ComponentBuild.Proofs.Settings.Faults
import ComponentBuild.Proofs.Settings.Mapping
import ComponentBuild.Proofs.Settings.Meaning
import ComponentBuild.Proofs.SourceSet.Excluded
import ComponentBuild.Proofs.SourceSet.Identified
import ComponentBuild.Proofs.SourceSet.Interleaving
import ComponentBuild.Proofs.SourceSet.Reassigned
import ComponentBuild.Proofs.SourceSet.RelativeText
import ComponentBuild.Proofs.SourceSet.SpelledOut
import ComponentBuild.Proofs.SourceSet.Withheld
import ComponentBuild.Proofs.Step.Alike
import ComponentBuild.Proofs.Step.Called
import ComponentBuild.Proofs.Step.Described
import ComponentBuild.Proofs.Step.Generate
import ComponentBuild.Proofs.Step.Kept
import ComponentBuild.Proofs.Step.Loaders
import ComponentBuild.Proofs.Step.Output
import ComponentBuild.Proofs.Step.Paths
import ComponentBuild.Proofs.Tree.Appended
import ComponentBuild.SourceSet.Cursor
