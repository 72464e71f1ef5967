import Refinery.Distribution.Headers
import Refinery.Generation.Build
import Refinery.Generation.Configured
import Refinery.Logging
import Refinery.Main
import Refinery.Maven.CommonFiles
import Refinery.Notebook.Cleanup
import Refinery.Proofs.CommonFiles.SampleGroups
import Refinery.Proofs.CommonFiles.Versions
import Refinery.Proofs.Component.VersionSearch
import Refinery.Proofs.Distribution.Repetition
import Refinery.Proofs.Distribution.SampleExclusion
import Refinery.Proofs.Maven.MethodBlocks
import Refinery.Proofs.Maven.VersionAgreement
import Refinery.Proofs.Maven.VersionRoundTrip
import Refinery.Proofs.Notebook.Reports
import Refinery.Proofs.Provenance.BaseDirectory
import Refinery.Proofs.Provenance.SourceOrder
import Refinery.Proofs.Replacement.Script
import Refinery.Proofs.Repository.CloneCache
import Refinery.Proofs.Sample.Extraction
import Refinery.Proofs.Staging.DeepestRoot
import Refinery.Proofs.Staging.Overlay
import Refinery.Proofs.Transfer.Keeping
import Refinery.Proofs.Transfer.Regeneration
import Refinery.Proofs.Transfer.Requirement
import Refinery.Proofs.Transfer.Splitting
import Refinery.Proofs.Transfer.Termination
import Refinery.Report
import Refinery.Template.Batch
import Refinery.UpdateCheck
import Refinery.Proofs.Maven.MethodCopies
import Refinery.Proofs.Merge.YearKept
import Refinery.Proofs.Npm.ReleaseConfig
import Refinery.Proofs.Generation.Return
import Refinery.Proofs.Sample.Comment
import Refinery.Proofs.Sample.Listing
import Refinery.Proofs.Repository.Address
import Refinery.Proofs.Sample.Indentation
import Refinery.Proofs.Sample.Words
