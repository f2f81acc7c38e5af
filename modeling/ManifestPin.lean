import ManifestPin.Main
import ManifestPin.Proofs.CommandLine.Settings
import ManifestPin.Proofs.Manifest.LineEnds
import ManifestPin.Proofs.Sync.Acceptance
import ManifestPin.Proofs.Sync.Contention
import ManifestPin.Proofs.Sync.Interruption
import ManifestPin.Proofs.Sync.Parameters
import ManifestPin.Proofs.Sync.Prediction
import ManifestPin.Proofs.Sync.Restoration
import ManifestPin.Proofs.Sync.Rewriting
import ManifestPin.Proofs.Sync.Warnings
import ManifestPin.Proofs.Version.Respelling
