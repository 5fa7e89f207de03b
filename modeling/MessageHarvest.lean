import MessageHarvest.Extractor
import MessageHarvest.Validation
import MessageHarvest.Tree.Tokens
import MessageHarvest.Proofs.Grouping
import MessageHarvest.Proofs.Regrouping
import MessageHarvest.Proofs.Records
import MessageHarvest.Proofs.Nesting
import MessageHarvest.Proofs.Capturing
import MessageHarvest.Proofs.Matching
import MessageHarvest.Proofs.Progress
import MessageHarvest.Proofs.CallLayout
import MessageHarvest.Proofs.Splitting
import MessageHarvest.Proofs.WellBracketed
import MessageHarvest.Proofs.Concatenation
import MessageHarvest.Proofs.Reporting
import MessageHarvest.Proofs.CallSites
import MessageHarvest.Proofs.Findings
import MessageHarvest.Proofs.Rescanning
import MessageHarvest.Proofs.View
import MessageHarvest.Proofs.Trivia
import MessageHarvest.Proofs.Renaming
import MessageHarvest.Proofs.Boundary
import MessageHarvest.Proofs.Unescaping
import MessageHarvest.Proofs.ByteUnescaping
import MessageHarvest.Proofs.Shortening
import MessageHarvest.Proofs.CallTree
import MessageHarvest.Proofs.TreeShape
import MessageHarvest.Proofs.Frontier
import MessageHarvest.Proofs.Sealing
import MessageHarvest.Proofs.Lossless
import MessageHarvest.Proofs.Placement
import MessageHarvest.Proofs.Compilation
import MessageHarvest.Proofs.Validation
import MessageHarvest.Proofs.Session
