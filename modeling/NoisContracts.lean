import NoisContracts.Library.Call
import NoisContracts.Library.Store
import NoisContracts.CosmWasm
import NoisContracts.DrandCommon
import NoisContracts.Protocol
import NoisContracts.Gateway.Core
import NoisContracts.Gateway.Effects
import NoisContracts.Library.Run
import NoisContracts.Gateway.Accounting
import NoisContracts.Gateway.Channels
import NoisContracts.Library.Text
import NoisContracts.ProtocolJson
import NoisContracts.NoisHost
import NoisContracts.Gateway.Packets
import NoisContracts.Gateway.Customers
import NoisContracts.Drand.Core
import NoisContracts.Library.Journal
import NoisContracts.Library.Ranking
import NoisContracts.Drand.Effects
import NoisContracts.Drand.Submissions
import NoisContracts.NoisChain.Core
import NoisContracts.Gateway.Deliveries
import NoisContracts.Drand.Beacons
import NoisContracts.Library.Protobuf
import NoisContracts.NoisChain.Agreement
import NoisContracts.Payment
import NoisContracts.Sink
import NoisContracts.Library.Ledger
import NoisContracts.Treasury.Core
import NoisContracts.Treasury.Steps
import NoisContracts.Treasury.Settlement
import NoisContracts.Drand.Rewards
import NoisContracts.Gateway.Queues
import NoisContracts.NoisChain.Changes
import NoisContracts.NoisChain.Drain
import NoisContracts.Gateway.Sources
import NoisContracts.NoisChain.Incentives
import NoisContracts.Proxy.Core
import NoisContracts.Proxy.Effects
import NoisContracts.Proxy.Channels
import NoisContracts.Library.Register
import NoisContracts.Proxy.Prices
import NoisContracts.Proxy.Writers
import NoisContracts.Proxy.Admission
import NoisContracts.Monitoring
import NoisContracts.Proxy.Payments
import NoisContracts.Library.Matching
import NoisContracts.Network.Core
import NoisContracts.Network.Delivery
import NoisContracts.DrandSchedule
import NoisContracts.Proxy.Quotes
import NoisContracts.Sink.Ashes
import NoisContracts.Library.Pages
import NoisContracts.Pagination
import NoisContracts.CommunityPool
import NoisContracts.Gateway.Queries
import NoisContracts.Library.Roster
import NoisContracts.Allowlists
import NoisContracts.Library.RawKeys
import NoisContracts.Gateway.Keys
import NoisContracts.Network.Exchange
import NoisContracts.Network.Dues
import NoisContracts.Network.Progress
import NoisContracts.Icecube
import NoisContracts.Library.Staking
import NoisContracts.Reserve
import NoisContracts.Consumer.Core
import NoisContracts.Consumer.Dice
import NoisContracts.Consumer.Estimates
import NoisContracts.Consumer.Verified
