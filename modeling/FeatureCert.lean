import FeatureCert.Report.Record
import FeatureCert.Document.Catalog
import FeatureCert.Document.Selection
import FeatureCert.Document.Report
import FeatureCert.Telemetry
import FeatureCert.Document.Library
import FeatureCert.Selection.Source
import FeatureCert.Settings.Session
import FeatureCert.Command.Program
import FeatureCert.Main
import FeatureCert.Proofs.Certified
import FeatureCert.Proofs.Order
import FeatureCert.Proofs.Legible
import FeatureCert.Proofs.Revalidated
import FeatureCert.Proofs.Restated
import FeatureCert.Proofs.Restored
import FeatureCert.Proofs.Merged
import FeatureCert.Proofs.Combined
import FeatureCert.Proofs.Precedence
import FeatureCert.Proofs.Toggled
import FeatureCert.Proofs.Zeros
import FeatureCert.Proofs.Locality
import FeatureCert.Proofs.Removal
import FeatureCert.Proofs.Consistent
import FeatureCert.Proofs.Exclusions
import FeatureCert.Proofs.Endings
import FeatureCert.Proofs.Shelved
import FeatureCert.Proofs.Foreseen
import FeatureCert.Proofs.Acceptance
import FeatureCert.Proofs.Fields
import FeatureCert.Proofs.Transcribed
import FeatureCert.Proofs.Refused
import FeatureCert.Proofs.Enclosed
import FeatureCert.Proofs.Literals
import FeatureCert.Proofs.HeaderLines
import FeatureCert.Proofs.Worded
import FeatureCert.Proofs.Alike
import FeatureCert.Proofs.Rendered
import FeatureCert.Proofs.Coherent
import FeatureCert.Proofs.Queried
import FeatureCert.Proofs.Itemized
import FeatureCert.Proofs.Unambiguous
import FeatureCert.Proofs.Regrouped
import FeatureCert.Proofs.Variables
import FeatureCert.Proofs.Reread
import FeatureCert.Proofs.Lossless
import FeatureCert.Proofs.Arranged
import FeatureCert.Proofs.InUse
import FeatureCert.Proofs.Grounded
