import KeyDepot.Deployment.Lines
import KeyDepot.Main
import KeyDepot.Proofs.Answering
import KeyDepot.Proofs.CutStreams
import KeyDepot.Proofs.Declarations
import KeyDepot.Proofs.EngineAgreement
import KeyDepot.Proofs.Fleet
import KeyDepot.Proofs.FrameDecoding
import KeyDepot.Proofs.Listings
import KeyDepot.Proofs.Paging
import KeyDepot.Proofs.Poisoning
import KeyDepot.Proofs.ReadBack
import KeyDepot.Proofs.GrantLifetimes
import KeyDepot.Proofs.PoolStock
import KeyDepot.Proofs.ReturnedResources
import KeyDepot.Proofs.Dialogue
import KeyDepot.Proofs.PoolErasure
import KeyDepot.Proofs.PeerLimits
import KeyDepot.Proofs.PoisonedDatabases
import KeyDepot.Proofs.Switchboard
import KeyDepot.Proofs.WithinDescriptors
import KeyDepot.Proofs.CallFootprint
import KeyDepot.Proofs.RestingLines
import KeyDepot.Proofs.Pipelining
import KeyDepot.Proofs.StemListings
import KeyDepot.Proofs.RangeListings
import KeyDepot.Proofs.AcceptedReplies
import KeyDepot.Proofs.FrameReaders
import KeyDepot.Proofs.PoolLoans
import KeyDepot.Proofs.Flushing
import KeyDepot.Proofs.BulkPuts
import KeyDepot.Proofs.Batches
import KeyDepot.Proofs.ScatteredData
