import MutationTesting.Document.JsonReader
import MutationTesting.Linking.Encoding
import MutationTesting.Linking.Inspection
import MutationTesting.Main
import MutationTesting.Mutation.Encoding
import MutationTesting.Proofs.Linking.Relinking
import MutationTesting.Proofs.Naming.Collisions
import MutationTesting.Proofs.Recording.CallTree
import MutationTesting.Proofs.Report.Verdicts
import MutationTesting.Proofs.Run.FailFast
import MutationTesting.Proofs.Run.History
import MutationTesting.Proofs.Run.Outcome
import MutationTesting.Proofs.Run.OwnMutants
import MutationTesting.Proofs.Run.SoleMutant
import MutationTesting.Proofs.Run.WorkerCounts
import MutationTesting.Proofs.Scheduling.Blocks
import MutationTesting.Sample.Single
import MutationTesting.Sandbox.Encoding
import MutationTesting.Sandbox.Probe
import MutationTesting.Session.Workbench
import MutationTesting.Proofs.Recording.Callers
import MutationTesting.Proofs.Run.Planning
import MutationTesting.Proofs.Linking.Bindings
import MutationTesting.Proofs.Sandbox.Deadlines
import MutationTesting.Proofs.Run.SandboxKinds
import MutationTesting.Proofs.Linking.LinkOrder
import MutationTesting.Proofs.Recording.UnknownCalls
import MutationTesting.Proofs.Scheduling.Interleaving
import MutationTesting.Proofs.Run.BaselineFlow
import MutationTesting.Proofs.Recording.FirstCallers
import MutationTesting.Recording.TreeBuilding
import MutationTesting.Proofs.Recording.QueueLoop
import MutationTesting.Proofs.Recording.TreeBuilding
import MutationTesting.Proofs.Recording.TreeReachability
import MutationTesting.Proofs.Recording.TreeWalks
import MutationTesting.Proofs.Recording.TesteeListing
import MutationTesting.Proofs.Recording.ClosestTests
import MutationTesting.Proofs.Run.Masking
import MutationTesting.Proofs.Scheduling.Atomicity
import MutationTesting.Proofs.Naming.SharedSymbols
import MutationTesting.Proofs.Session.FreshImages
import MutationTesting.Proofs.Trampoline.SharedFunctions
import MutationTesting.Proofs.Run.RegisteredSlots
import MutationTesting.Proofs.Linking.MutantObjects
import MutationTesting.Proofs.Session.NestedActivations
import MutationTesting.Proofs.Session.FixingUp
import MutationTesting.Proofs.Report.PointIdentities
import MutationTesting.Proofs.Report.Partition
import MutationTesting.Proofs.Report.Composition
import MutationTesting.Proofs.Scheduling.Tiling
import MutationTesting.Proofs.Configuration.Saturation
import MutationTesting.Proofs.Text.LossyReading
import MutationTesting.Proofs.Sandbox.Survival
import MutationTesting.Proofs.Run.Staffing
import MutationTesting.Proofs.Run.Discoveries
import MutationTesting.Proofs.Recording.BalancedCalls
import MutationTesting.Proofs.Configuration.Files
import MutationTesting.Proofs.Sample.CountDown
