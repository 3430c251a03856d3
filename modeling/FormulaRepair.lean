import FormulaRepair.CommandLine.Run
import FormulaRepair.Main
import FormulaRepair.Proofs.Scan.Segments
import FormulaRepair.Proofs.Scan.Concatenation
import FormulaRepair.Proofs.Pool.Latest
import FormulaRepair.Proofs.Compose.LeftToRight
import FormulaRepair.Proofs.Desk.Run
import FormulaRepair.Proofs.Desk.Repaired
import FormulaRepair.Proofs.Desk.Versions
import FormulaRepair.Proofs.CommandLine.Fix
import FormulaRepair.Proofs.Cache.Renderings
import FormulaRepair.Proofs.Cache.Recency
import FormulaRepair.Proofs.Registry.Decisions
import FormulaRepair.Proofs.Desk.OneRepair
import FormulaRepair.Proofs.Pool.AnyOrder
import FormulaRepair.Proofs.Service.Listing
import FormulaRepair.Proofs.Desk.Independence
import FormulaRepair.Proofs.Desk.Analysis
import FormulaRepair.Proofs.Cleaning.Layers
import FormulaRepair.Proofs.Desk.Reported
import FormulaRepair.Proofs.Desk.Rewrapped
import FormulaRepair.Proofs.Desk.Shown
import FormulaRepair.Proofs.Scan.Opacity
import FormulaRepair.Proofs.Typesetting.UnknownCommand
import FormulaRepair.Proofs.Service.Attempts
import FormulaRepair.Proofs.ExportPath
import FormulaRepair.Proofs.Settings
import FormulaRepair.Proofs.Scan.Progress
import FormulaRepair.Proofs.Intake
