import PhasePortrait.Export.Vertices
import PhasePortrait.Settings.Reading
import PhasePortrait.Proofs.Accounting
import PhasePortrait.Proofs.Arrows
import PhasePortrait.Proofs.Bounds
import PhasePortrait.Proofs.Buffers
import PhasePortrait.Proofs.Cells
import PhasePortrait.Proofs.Decoding
import PhasePortrait.Proofs.Documents
import PhasePortrait.Proofs.Edits
import PhasePortrait.Proofs.Extents
import PhasePortrait.Proofs.Literals
import PhasePortrait.Proofs.Padding
import PhasePortrait.Proofs.Reports
import PhasePortrait.Proofs.Reversal
import PhasePortrait.Proofs.Sampling
import PhasePortrait.Proofs.Sizes
import PhasePortrait.Proofs.Spacing
import PhasePortrait.Proofs.Steps
import PhasePortrait.Proofs.Taylor
