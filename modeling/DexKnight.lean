import DexKnight.Core.Contracts
import DexKnight.Support.ConstantProduct
import DexKnight.ContractProofs
import DexKnight.BackrunSafety
import DexKnight.Core.Calculator
import DexKnight.CalculatorProofs
import DexKnight.Prediction
import DexKnight.FalseOpportunity
import DexKnight.Core.Wire
import DexKnight.Core.Codec
import DexKnight.Core.CandidateState
import DexKnight.SourceProofs
import DexKnight.SourceCoherence
import DexKnight.StaleView
import DexKnight.PendingOrder
import DexKnight.Core.BlockBuilder
import DexKnight.MempoolProofs
import DexKnight.CandidateDelivery
import DexKnight.BuilderProofs
import DexKnight.FailedSubmission
import DexKnight.Core.Runtime
import DexKnight.Core.Encoder
import DexKnight.Core.Configuration
import DexKnight.Core.Websocket
import DexKnight.Core.Feed
import DexKnight.Core.Ingress
import DexKnight.BundleWire
import DexKnight.SubmitRetries
import DexKnight.Core.Deployment
import DexKnight.DeploymentProofs
import DexKnight.BundleFreshness
import DexKnight.NonceAgreement
import DexKnight.SolvencyRuns
import DexKnight.ProductGrowth
import DexKnight.SplitSwaps
import DexKnight.OptimalAmount
import DexKnight.BestRoute
import DexKnight.UnsearchedRoute
import DexKnight.StateHistory
import DexKnight.ResultRoundTrip
import DexKnight.TransactionRoundTrip
import DexKnight.BundleDecoding
import DexKnight.StoppedSource
import DexKnight.ClosedFeed
import DexKnight.BoundedQueue
import DexKnight.HeadChanges
import DexKnight.MempoolSequence
import DexKnight.Composition
import DexKnight.BackrunEncoding
import DexKnight.SwapDecoding
import DexKnight.EndpointGrammar
import DexKnight.ChainExecution
import DexKnight.PublishedRecords
import DexKnight.KnownCandidates
import DexKnight.RealizedProfit
import DexKnight.AccountExposure
import DexKnight.ClosedTrades
import DexKnight.Broadcasting
import DexKnight.StreamDelivery
import DexKnight.Wakeups
import DexKnight.EarnedProfit
import DexKnight.SimulatedInclusion
import DexKnight.JoinedThreads
