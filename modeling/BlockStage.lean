import BlockStage.Main
import BlockStage.Proofs.Scenario.Freshness
import BlockStage.Proofs.Collision.Exactness
import BlockStage.Proofs.Swap.Partners
import BlockStage.Proofs.Swap.Status
import BlockStage.Proofs.Swap.RoundTrip
import BlockStage.Proofs.Swap.Signs
import BlockStage.Proofs.Registry.Undoing
import BlockStage.Proofs.Event.Passes
import BlockStage.Proofs.Playback.Unattended
import BlockStage.Proofs.Playback.Snapshots
import BlockStage.Proofs.Playback.Moves
import BlockStage.Proofs.Playback.Safety
import BlockStage.Proofs.Playback.Limit
import BlockStage.Proofs.Event.Suffix
import BlockStage.Proofs.Stage.Records
import BlockStage.Proofs.Playback.History
import BlockStage.Proofs.Event.Labels
import BlockStage.Proofs.Playback.Replica
import BlockStage.Proofs.Playback.Bubbles
import BlockStage.Proofs.Scenario.Failures
import BlockStage.Proofs.Playback.Refusals
import BlockStage.Proofs.Playback.Bounds
import BlockStage.Proofs.Scenario.Spawning
import BlockStage.Proofs.Script.Allocation
import BlockStage.Proofs.Playback.Numbering
import BlockStage.Proofs.Swap.PileUp
import BlockStage.Proofs.Playback.Stepwise
import BlockStage.Proofs.Playback.Standstill
import BlockStage.Proofs.Playback.Draining
import BlockStage.Proofs.Playback.Previews
import BlockStage.Proofs.Playback.Footprint
import BlockStage.Proofs.Swap.Symmetry
import BlockStage.Proofs.Collision.Pairs
import BlockStage.Proofs.CommandLine.Runs
