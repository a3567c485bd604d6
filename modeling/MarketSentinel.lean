import MarketSentinel.Paper.Conservation
import MarketSentinel.Wallet.Delivery
import MarketSentinel.Journal.Receipts
import MarketSentinel.Leaderboard.Reopen
import MarketSentinel.Library.Transition
import MarketSentinel.Leaderboard.Scan
import MarketSentinel.Alerts.Alert
import MarketSentinel.Alerts.Edges
import MarketSentinel.Leaderboard.EarlyStop
import MarketSentinel.Leaderboard.Interruption
import MarketSentinel.Oncall.Bridge
import MarketSentinel.Oncall.Protocol
import MarketSentinel.Oncall.Receipts
import MarketSentinel.Library.Program
import MarketSentinel.Live.Audit
import MarketSentinel.Live.Cancellation
import MarketSentinel.Copy.Agreement
import MarketSentinel.Copy.Cap
import MarketSentinel.Library.Decimal
import MarketSentinel.Library.JsonString
import MarketSentinel.Library.Rounding
import MarketSentinel.Library.RunningPeak
import MarketSentinel.Mdd.Drawdown
import MarketSentinel.Venue.Exposure
import MarketSentinel.Wallet.AdapterFeed
import MarketSentinel.Wallet.WindowFeed
import MarketSentinel.Worker.Run
import MarketSentinel.Worker.Telemetry
import MarketSentinel.Backup.Catalog
import MarketSentinel.Backup.Retention
import MarketSentinel.Listing.Adapters
import MarketSentinel.Venue.Binding
import MarketSentinel.Candles.Adapters
import MarketSentinel.Paper.Impact
import MarketSentinel.Venue.Hedgehog
import MarketSentinel.Venue.Lamas
import MarketSentinel.Venue.MetaDao
import MarketSentinel.Quotes.Complement
import MarketSentinel.Candles.MetaDao
import MarketSentinel.Candles.SlotCandles
import MarketSentinel.Library.Grid
import MarketSentinel.Library.Interleaving
import MarketSentinel.Library.Recency
import MarketSentinel.Mdd.MemoryCache
import MarketSentinel.Quotes.Orders
import MarketSentinel.Quotes.Quantisation
import MarketSentinel.Server.AuthFailures
import MarketSentinel.Server.Drain
import MarketSentinel.Venue.Pacing
import MarketSentinel.Venue.PacingSpaced
import MarketSentinel.Venue.TrueoRpc
import MarketSentinel.Backup.TarPreflight
import MarketSentinel.Journal.Nesting
import MarketSentinel.Library.Binary64
import MarketSentinel.Stream.Client
import MarketSentinel.Stream.Generations
import MarketSentinel.Venue.AccountData
import MarketSentinel.Venue.AccountLayout
import MarketSentinel.Library.Curve
import MarketSentinel.Library.Feeds
import MarketSentinel.Library.Observations
import MarketSentinel.Mdd.Capital
import MarketSentinel.Mdd.FeedOrder
import MarketSentinel.Mdd.CursorHistory
import MarketSentinel.Mdd.Published
import MarketSentinel.Mdd.Inputs
import MarketSentinel.Mdd.MarkReplay
import MarketSentinel.Mdd.Risk
