import Newsfeed.Assembly
import Newsfeed.Document.Feed
import Newsfeed.Document.Settings
import Newsfeed.Json.Reader
import Newsfeed.Settings.Load
import Newsfeed.Proofs.HeadlineOrder
import Newsfeed.Proofs.Exhaustion
import Newsfeed.Proofs.Snapshot
import Newsfeed.Proofs.Sides
import Newsfeed.Proofs.Ceiling
import Newsfeed.Proofs.RankOrder
import Newsfeed.Proofs.WellFormed
import Newsfeed.Proofs.PageCount
import Newsfeed.Proofs.DealShare
import Newsfeed.Proofs.RotationQueues
import Newsfeed.Proofs.Turns
import Newsfeed.Proofs.HistorySignal
import Newsfeed.Proofs.Delivery
import Newsfeed.Proofs.FeedDocument
import Newsfeed.Proofs.GreedySlots
import Newsfeed.Proofs.RankPlaces
import Newsfeed.Proofs.Distances
import Newsfeed.Proofs.PublishTimes
import Newsfeed.Proofs.Renormalization
import Newsfeed.Proofs.ZoneSuffix
import Newsfeed.Proofs.Termination
import Newsfeed.Proofs.EmptyFeed
import Newsfeed.Proofs.RunTotals
import Newsfeed.Proofs.SettingsSource
import Newsfeed.Proofs.Recency
import Newsfeed.Proofs.RecentLabels
import Newsfeed.Proofs.LastRecord
import Newsfeed.Proofs.TopShuffle
import Newsfeed.Proofs.AskedItems
import Newsfeed.Proofs.DrawAlgebra
