import RichText.Json.Printer
import RichText.Main
import RichText.Proofs.Build.Delivery
import RichText.Proofs.Build.Naming
import RichText.Proofs.Build.Places
import RichText.Proofs.CommandLine.Calls
import RichText.Proofs.CommandLine.ExitCode
import RichText.Proofs.CommandLine.Reporting
import RichText.Proofs.Latex.Decoding
import RichText.Proofs.Latex.Skeleton
import RichText.Proofs.Layout.History
import RichText.Proofs.Logging.Configuring
import RichText.Proofs.Markup.Defaults
import RichText.Proofs.Markup.Labels
import RichText.Proofs.Markup.Marks
import RichText.Proofs.Markup.Ordinals
import RichText.Proofs.Markup.Runs
import RichText.Proofs.Markup.Spacing
import RichText.Proofs.Markup.Strays
import RichText.Proofs.Tree.Defects
import RichText.Proofs.Tree.Pruning
import RichText.Proofs.Tree.Stored
import RichText.Proofs.World.Continuing
import RichText.Proofs.Yaml.Composing
import RichText.Proofs.Yaml.Framing
import RichText.Proofs.Yaml.Scanning
import RichText.Tree.Edit
import RichText.Tree.Store
