import Validium.Main
import Validium.Pool.Timeline
import Validium.Proofs.Abi.Hostile
import Validium.Proofs.Abi.Layout
import Validium.Proofs.Attestation.Agreement
import Validium.Proofs.DataLayer.Attested
import Validium.Proofs.DataLayer.Cancelled
import Validium.Proofs.DataLayer.Commitment
import Validium.Proofs.Message.Pointer
import Validium.Proofs.Migration.Lossless
import Validium.Proofs.Pool.Outcome
import Validium.Proofs.Pool.Permits
import Validium.Proofs.Rollup.RoundTrip
import Validium.Proofs.Server.Exchange
import Validium.Proofs.Store.Alone
import Validium.Proofs.Store.Confluence
import Validium.Rehearsal.Depot
import Validium.Rehearsal.Handle
import Validium.Rehearsal.Script
import Validium.Rehearsal.Trial
import Validium.Server.Startup
import Validium.Settings.Shown
import Validium.Proofs.Rollup.Exact
import Validium.Proofs.Abi.Extent
import Validium.Proofs.Rollup.Sequenced
import Validium.Proofs.Migration.Requests
import Validium.Proofs.ProofService.Polling
import Validium.Proofs.Server.Answers
import Validium.Proofs.Chain.Traffic
import Validium.Proofs.ProofService.Answers
import Validium.Proofs.Settings.Agreement
import Validium.Proofs.Settings.Precedence
import Validium.Proofs.Retry.Waits
import Validium.Proofs.DataLayer.Overcommitted
import Validium.Proofs.Abi.Pieces
import Validium.Proofs.JsonRpc.Quantity
