import TxGateway.Rehearsal.Step
import TxGateway.Rpc.Provider
import TxGateway.Storage.Row
import TxGateway.Proofs.Nonces
import TxGateway.Proofs.GatewayLaws
import TxGateway.Proofs.LedgerBook
import TxGateway.Proofs.Run
import TxGateway.Proofs.Turn
import TxGateway.Proofs.BookRefinement
import TxGateway.Proofs.LedgerRefinement
import TxGateway.Proofs.NoReuse
import TxGateway.Proofs.Custody
import TxGateway.Proofs.Moves
import TxGateway.Proofs.CallMoves
import TxGateway.Proofs.Coupling
import TxGateway.Proofs.Whereabouts
import TxGateway.Proofs.Watching
import TxGateway.Proofs.HandOut
import TxGateway.Proofs.Index
import TxGateway.Proofs.Tracking
import TxGateway.Proofs.Holders
import TxGateway.Proofs.Dropping
import TxGateway.Proofs.TidyRuns
import TxGateway.Proofs.Seeing
import TxGateway.Proofs.Signatures
import TxGateway.Proofs.StoreAnswers
import TxGateway.Proofs.Succession
import TxGateway.Proofs.Gaps
import TxGateway.Proofs.NoGap
import TxGateway.Proofs.Stages
import TxGateway.Proofs.Abandonment
import TxGateway.Proofs.Restoring
import TxGateway.Proofs.Rebuilding
import TxGateway.Proofs.World
import TxGateway.Proofs.Recovery
import TxGateway.Proofs.HolderIndex
import TxGateway.Proofs.Readings
import TxGateway.Proofs.Freshness
import TxGateway.Proofs.Deciding
import TxGateway.Proofs.Asking
import TxGateway.Proofs.Finality
import TxGateway.Proofs.AfterRecovery
import TxGateway.Proofs.Owing
import TxGateway.Proofs.CatchingUp
import TxGateway.Proofs.Failover
import TxGateway.Proofs.GivingBack
import TxGateway.Proofs.AllocationOrder
import TxGateway.Proofs.Polling
import TxGateway.Proofs.Undoing
import TxGateway.Proofs.FailedSubmission
import TxGateway.Proofs.Errands
import TxGateway.Proofs.Relief
import TxGateway.Proofs.Sweeping
import TxGateway.Proofs.Keyed
import TxGateway.Proofs.SweepOutcome
import TxGateway.Proofs.RefreshSweep
import TxGateway.Proofs.Forgetting
import TxGateway.Proofs.NonceCounts
import TxGateway.Proofs.NonceMetrics
import TxGateway.Proofs.SignedPrice
import TxGateway.Proofs.MonitorEndurance
import TxGateway.Proofs.Amounts
import TxGateway.Proofs.OutOfGas
import TxGateway.Proofs.HexText
import TxGateway.Proofs.StoredRows
import TxGateway.Proofs.RlpReading
import TxGateway.Proofs.SignedTransaction
import TxGateway.Proofs.ApprovalBodies
import TxGateway.Proofs.Sending
import TxGateway.Proofs.Approving
