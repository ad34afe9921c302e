import UploadRunner.Host.Basic
import UploadRunner.Main
import UploadRunner.Shell.Words
import UploadRunner.Proofs.Text.Utf8
import UploadRunner.Proofs.Shell.Lines
import UploadRunner.Proofs.Arguments.CommandLines
import UploadRunner.Proofs.Pipeline.FaultyOutput
import UploadRunner.Proofs.Json.Strings
import UploadRunner.Proofs.Json.Numbers
import UploadRunner.Proofs.Json.Tokens
import UploadRunner.Proofs.Configuration.Settings
import UploadRunner.Proofs.Configuration.Texts
import UploadRunner.Proofs.Text.Excerpts
import UploadRunner.Proofs.Text.Separated
import UploadRunner.Proofs.Pipeline.OpenOutput
import UploadRunner.Proofs.Pipeline.QuietRuns
import UploadRunner.Proofs.Invocation.Readings
import UploadRunner.Proofs.Host.StandardInput
import UploadRunner.Proofs.Invocation.SharedOutput
import UploadRunner.Proofs.Invocation.Statuses
import UploadRunner.Proofs.Invocation.TrailingTokens
import UploadRunner.Proofs.Json.Scans
import UploadRunner.Proofs.Configuration.Damage
import UploadRunner.Proofs.Configuration.Forms
import UploadRunner.Proofs.Invocation.ClosedOutput
import UploadRunner.Proofs.Invocation.LoggedRuns
import UploadRunner.Proofs.Arguments.HelpRequests
import UploadRunner.Proofs.Pipeline.DistinctCommands
import UploadRunner.Proofs.Pipeline.ToolChains
import UploadRunner.Proofs.Pipeline.DerivedNames
import UploadRunner.Proofs.Pipeline.RunRecords
import UploadRunner.Proofs.Shell.SimpleCommands
