import ScriptPlugins.Main
import ScriptPlugins.Proofs.CommandLine.Generate
import ScriptPlugins.Proofs.Source.Declaration
import ScriptPlugins.Proofs.Source.Tokens
import ScriptPlugins.Proofs.CommandLine.Ordering
import ScriptPlugins.Proofs.Source.Provenance
import ScriptPlugins.Proofs.Plugins.Namesakes
import ScriptPlugins.Proofs.Plugins.Rebuild
import ScriptPlugins.Proofs.CommandLine.Survival
import ScriptPlugins.Proofs.CommandLine.Phases
import ScriptPlugins.Proofs.Source.LineEnds
import ScriptPlugins.Proofs.Plugins.Publishable
import ScriptPlugins.Proofs.CommandLine.Isolation
import ScriptPlugins.Proofs.Plugins.Commuting
import ScriptPlugins.Proofs.Plugins.History
import ScriptPlugins.Proofs.Settings.Load
import ScriptPlugins.Proofs.Settings.ReadBack
import ScriptPlugins.Proofs.Plugins.ClassNames
import ScriptPlugins.Proofs.Plugins.Registering
import ScriptPlugins.Proofs.Plugins.Containment
import ScriptPlugins.Proofs.Source.CamelCase
import ScriptPlugins.Proofs.Source.Qualified
import ScriptPlugins.Proofs.Plugins.Finding
import ScriptPlugins.Proofs.Plugins.Rendering
import ScriptPlugins.Proofs.Text.Indentation
import ScriptPlugins.Proofs.Plugins.Listing
import ScriptPlugins.Proofs.Plugins.FirstCome
import ScriptPlugins.Proofs.Settings.VariableName
import ScriptPlugins.Proofs.Source.Neighbours
import ScriptPlugins.Proofs.Source.Nesting
