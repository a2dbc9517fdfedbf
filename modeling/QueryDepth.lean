import QueryDepth.CommandLine.Program
import QueryDepth.Document.Grammar
import QueryDepth.Main
import QueryDepth.Proofs.ContentGrowth
import QueryDepth.Proofs.DepthThreshold
import QueryDepth.Proofs.LimitResumption
import QueryDepth.Proofs.OperationBlocks
import QueryDepth.Proofs.SpreadInlining
import QueryDepth.Proofs.WalkTermination
import QueryDepth.Rule.Limiter
import QueryDepth.Proofs.PatternFailure
import QueryDepth.Session
import QueryDepth.Proofs.Accounting
import QueryDepth.Proofs.SessionIsolation
import QueryDepth.Proofs.CheckedFiles
import QueryDepth.Proofs.HostAgreement
import QueryDepth.Proofs.LeftOutFields
import QueryDepth.Proofs.InlineSplicing
import QueryDepth.Proofs.FileArguments
import QueryDepth.Proofs.FileIndependence
import QueryDepth.Proofs.MissingSelections
import QueryDepth.Proofs.Outlines
import QueryDepth.Proofs.FailingPredicates
import QueryDepth.Proofs.PatternUses
import QueryDepth.Proofs.ExitStatus
import QueryDepth.Proofs.WorklistFrames
