import CalcBuild.Main
import CalcBuild.Proofs.Text.Spelling
import CalcBuild.Number.Power
import CalcBuild.Number.Print
import CalcBuild.Proofs.Build.Atomicity
import CalcBuild.Proofs.Build.Cancellation
import CalcBuild.Proofs.Build.Deadline
import CalcBuild.Proofs.Build.Decision
import CalcBuild.Proofs.Build.Desk
import CalcBuild.Proofs.Build.Exclusion
import CalcBuild.Proofs.Build.Fairness
import CalcBuild.Proofs.Build.Frame
import CalcBuild.Proofs.Build.Freshness
import CalcBuild.Proofs.Build.Isolation
import CalcBuild.Proofs.Build.Lifecycle
import CalcBuild.Proofs.Build.Meaning
import CalcBuild.Proofs.Build.Polling
import CalcBuild.Proofs.Build.Quotation
import CalcBuild.Proofs.Build.Restoration
import CalcBuild.Proofs.Build.Waiting
import CalcBuild.Proofs.CommandLine.Status
import CalcBuild.Proofs.CommandLine.Trouble
import CalcBuild.Proofs.CommandLine.Verbosity
import CalcBuild.Proofs.Number.Doubles
import CalcBuild.Proofs.Number.Powers
import CalcBuild.Proofs.Toolchain.Resolution
import CalcBuild.Proofs.Build.SourceText
import CalcBuild.Proofs.Build.Redirection
import CalcBuild.Proofs.CommandLine.Verdict
import CalcBuild.Proofs.Text.Occurrences
import CalcBuild.Proofs.CommandLine.Complaints
import CalcBuild.Proofs.CommandLine.Causes
import CalcBuild.Proofs.Number.Counting
import CalcBuild.Proofs.Number.Products
import CalcBuild.Proofs.Number.Wholes
import CalcBuild.Proofs.Toolchain.Directories
import CalcBuild.Proofs.CommandLine.Spelled
import CalcBuild.Proofs.Build.Rendering
import CalcBuild.Proofs.Build.Placement
