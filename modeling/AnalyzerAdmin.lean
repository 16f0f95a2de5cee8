import AnalyzerAdmin.Main
import AnalyzerAdmin.Proofs.Encoding
import AnalyzerAdmin.Proofs.Ending
import AnalyzerAdmin.Proofs.FailStop
import AnalyzerAdmin.Proofs.Layout
import AnalyzerAdmin.Proofs.Mask
import AnalyzerAdmin.Proofs.OptionValues
import AnalyzerAdmin.Proofs.PolledRun
import AnalyzerAdmin.Proofs.Printed
import AnalyzerAdmin.Proofs.ReadTimes
import AnalyzerAdmin.Proofs.Rejection
import AnalyzerAdmin.Proofs.ShownReplies
import AnalyzerAdmin.Proofs.Spelling
import AnalyzerAdmin.Proofs.Store
import AnalyzerAdmin.Proofs.Toggles
import AnalyzerAdmin.Proofs.Defects
import AnalyzerAdmin.Proofs.Literals
import AnalyzerAdmin.Proofs.Outcome
import AnalyzerAdmin.Proofs.Verification
import AnalyzerAdmin.Proofs.BatchQuery
import AnalyzerAdmin.Proofs.ExpectedNodes
import AnalyzerAdmin.Proofs.KeySets
import AnalyzerAdmin.Proofs.KeyedWrites
import AnalyzerAdmin.Proofs.TokenTexts
import AnalyzerAdmin.Proofs.BatchWindow
import AnalyzerAdmin.Proofs.Grammar
import AnalyzerAdmin.Proofs.MemberOrder
import AnalyzerAdmin.Proofs.Recognition
