import OperatorLowering.Graph.Model
import OperatorLowering.Lowering.Registry
import OperatorLowering.Lowering.Lowerer
import OperatorLowering.Proofs.Lowering.Reachable
import OperatorLowering.Proofs.Shape.Broadcast
import OperatorLowering.Proofs.Shape.Order
import OperatorLowering.Proofs.Cell.Layers
import OperatorLowering.Proofs.Cell.Binding
import OperatorLowering.Proofs.Meaning.Evaluation
import OperatorLowering.Proofs.Meaning.Request
import OperatorLowering.Proofs.Meaning.Plan
import OperatorLowering.Proofs.Cell.Lowering
import OperatorLowering.Proofs.Meaning.Broadcast
import OperatorLowering.Proofs.Meaning.Products
import OperatorLowering.Proofs.Cell.Matrices
import OperatorLowering.Proofs.Cell.Reference
import OperatorLowering.Proofs.Cell.Values
import OperatorLowering.Proofs.Cell.Meaning
import OperatorLowering.Proofs.Graph.Rejection
import OperatorLowering.Proofs.Cell.Acceptance
import OperatorLowering.Proofs.Cell.Conversion
import OperatorLowering.Proofs.Cell.Shapes
import OperatorLowering.Proofs.Cell.Failures
import OperatorLowering.Proofs.Graph.Blocks
import OperatorLowering.Proofs.Meaning.Programs
import OperatorLowering.Proofs.Cell.Renaming
import OperatorLowering.Proofs.Lowering.Extension
import OperatorLowering.Proofs.Graph.Names
import OperatorLowering.Proofs.Lowering.Reconcile
import OperatorLowering.Proofs.Lowering.Agreement
import OperatorLowering.Proofs.Cell.Constants
import OperatorLowering.Proofs.Meaning.Compatibility
import OperatorLowering.Proofs.Cell.States
import OperatorLowering.Proofs.Meaning.Positions
import OperatorLowering.Proofs.Meaning.Selection
import OperatorLowering.Proofs.Cell.Partition
import OperatorLowering.Proofs.Cell.Bias
import OperatorLowering.Proofs.Graph.FreshNames
import OperatorLowering.Proofs.Lowering.BoundArguments
import OperatorLowering.Proofs.Lowering.Registrations
import OperatorLowering.Proofs.Meaning.Volumes
