import TradeControl.AdaptiveRisk.BacksOff
import TradeControl.AdaptiveRisk.FailedReconcile
import TradeControl.AdaptiveRisk.LedgerConverges
import TradeControl.AdaptiveRisk.StaleViews
import TradeControl.AdaptiveRisk.TradingDays
import TradeControl.BreakContract
import TradeControl.BreakevenReport
import TradeControl.CTrader.InterlockRuns
import TradeControl.CTrader.Protection.Reconstruction
import TradeControl.CatchUp
import TradeControl.ChunkedHistory
import TradeControl.CloseGuard
import TradeControl.ControlWindows
import TradeControl.DegenerateStops
import TradeControl.DispatchOnce
import TradeControl.EngineV2.EntrySafety
import TradeControl.EntryNotifications
import TradeControl.FetchDepth
import TradeControl.FillAttachment
import TradeControl.FillSweeps
import TradeControl.FresherSignal
import TradeControl.GuardsIndependent
import TradeControl.HoldRemembered
import TradeControl.HolderLists
import TradeControl.LatchTruth
import TradeControl.LazyZoom
import TradeControl.LeadWiden
import TradeControl.MarketRescue
import TradeControl.MilestoneGate
import TradeControl.MirrorReplay
import TradeControl.MwRuns
import TradeControl.MwSnap
import TradeControl.NeverStacked
import TradeControl.NotTaken
import TradeControl.NyClock
import TradeControl.Oanda.AttemptTruth
import TradeControl.PositionTracking
import TradeControl.ReplayRestores
import TradeControl.ResolutionOrder
import TradeControl.RestoreRuns
import TradeControl.RetryRuns
import TradeControl.RowsWhole
import TradeControl.SizeRetries
import TradeControl.SpreadBlocks
import TradeControl.SpreadProfile
import TradeControl.StableLines
import TradeControl.WidenGrid
