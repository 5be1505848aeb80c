import BtApiCtp.Answers.Coherence
import BtApiCtp.Callbacks.Handing
import BtApiCtp.Callbacks.Polls
import BtApiCtp.Cleaner.Freshness
import BtApiCtp.ClosePlan.AgeInterval
import BtApiCtp.ClosePlan.EarlierDeadlines
import BtApiCtp.ClosePlan.EitherName
import BtApiCtp.Collector.Outcome
import BtApiCtp.Collector.Shard
import BtApiCtp.Dispatch.CancelScopes
import BtApiCtp.InstrumentCatalog.Cache
import BtApiCtp.Market.DirectCursors
import BtApiCtp.Market.Retirement
import BtApiCtp.Market.Schedule
import BtApiCtp.Market.Volume
import BtApiCtp.Query.Exclusion
import BtApiCtp.Query.Sealing
import BtApiCtp.Recovery.Remaining
import BtApiCtp.Session.OrderRef
import BtApiCtp.Trader.DirectWrites
import BtApiCtp.Trader.ProviderOrderId
