import ClassAtlas.ClassFile.Write
import ClassAtlas.Main
import ClassAtlas.Proofs.Accounts
import ClassAtlas.Proofs.Comparing
import ClassAtlas.Proofs.Delivery
import ClassAtlas.Proofs.Descent
import ClassAtlas.Proofs.Editing
import ClassAtlas.Proofs.Extent
import ClassAtlas.Proofs.Grammar
import ClassAtlas.Proofs.History
import ClassAtlas.Proofs.Identity
import ClassAtlas.Proofs.Interruption
import ClassAtlas.Proofs.Lines
import ClassAtlas.Proofs.Numbering
import ClassAtlas.Proofs.Omission
import ClassAtlas.Proofs.Origins
import ClassAtlas.Proofs.Packing
import ClassAtlas.Proofs.Progress
import ClassAtlas.Proofs.Refusal
import ClassAtlas.Proofs.Reordering
import ClassAtlas.Proofs.Replay
import ClassAtlas.Proofs.Retention
import ClassAtlas.Proofs.Roundtrip
import ClassAtlas.Proofs.SearchPaths
import ClassAtlas.Proofs.Selection
import ClassAtlas.Proofs.Skipping
import ClassAtlas.Proofs.Spelling
import ClassAtlas.Proofs.Spoiling
import ClassAtlas.Proofs.Tags
