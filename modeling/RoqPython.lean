import RoqPython.Lib.Machine
import RoqPython.Lib.Region
import RoqPython.Fix.SessionMessages
import RoqPython.Fix.SecurityMessages
import RoqPython.Fix.MarketDataMessages
import RoqPython.Fix.OrderMessages
import RoqPython.Fix.PostTradeMessages
import RoqPython.Fix.Message
import RoqPython.Fix.RoundTrip
import RoqPython.Fix.Lifetime
import RoqPython.Fix.Constructors
import RoqPython.Dispatch
import RoqPython.Fix.Encoder
import RoqPython.EventLog
import RoqPython.FixSession
import RoqPython.MarketByPrice
import RoqPython.Reassembly
import RoqPython.Recovery
import RoqPython.Joining
import RoqPython.Feed
import RoqPython.Lib.Raising
import RoqPython.Lib.Streaming
import RoqPython.Stuck
import RoqPython.Workflow
import RoqPython.Fix.Isolation
import RoqPython.Lib.Loans
import RoqPython.Lib.Ordered
import RoqPython.Lossy
import RoqPython.References
import RoqPython.Strategy
import RoqPython.Wire
import RoqPython.Config
import RoqPython.Replay
import RoqPython.Lib.Groups
import RoqPython.Lib.Rounding
import RoqPython.PivotTable
