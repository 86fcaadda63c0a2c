import Leaderboard.Arguments
import Leaderboard.Breakdown
import Leaderboard.Explorer
import Leaderboard.Feed.Dataset
import Leaderboard.Feed.Explanations
import Leaderboard.Feed.Partition
import Leaderboard.Feed.Record
import Leaderboard.Json.Printer
import Leaderboard.Json.Reader
import Leaderboard.Json.Token
import Leaderboard.Json.Value
import Leaderboard.Log.Record
import Leaderboard.Log.Sha256
import Leaderboard.Main
import Leaderboard.Navigation.Link
import Leaderboard.Navigation.Location
import Leaderboard.Navigation.Mode
import Leaderboard.Number.Binary64
import Leaderboard.Number.Decimal
import Leaderboard.Number.Text
import Leaderboard.Page
import Leaderboard.Proofs.CellOrder
import Leaderboard.Proofs.CompetitionRank
import Leaderboard.Proofs.FilteredTable
import Leaderboard.Proofs.SharedRanking
import Leaderboard.Proofs.StableOrder
import Leaderboard.Ranking
import Leaderboard.Script
import Leaderboard.Session
import Leaderboard.Settings
import Leaderboard.Site.Cache
import Leaderboard.Site.Error
import Leaderboard.Site.Folder
import Leaderboard.Site.History
import Leaderboard.Site.Source
import Leaderboard.Site.World
import Leaderboard.Sorting
import Leaderboard.Table.Cell
import Leaderboard.Table.Column
import Leaderboard.Table.Filter
import Leaderboard.Table.Format
import Leaderboard.Table.Ordering
import Leaderboard.Table.Query
import Leaderboard.Table.Row
import Leaderboard.Text.BidiClass
import Leaderboard.Text.Blank
import Leaderboard.Text.Canonical
import Leaderboard.Text.CanonicalTable
import Leaderboard.Text.Case
import Leaderboard.Text.CaseTable
import Leaderboard.Text.CodeTable
import Leaderboard.Text.Cut
import Leaderboard.Text.Joining
import Leaderboard.Text.Mark
import Leaderboard.Text.Percent
import Leaderboard.Text.Search
import Leaderboard.Text.Utf8
import Leaderboard.Url.Basic
import Leaderboard.Url.Fault
import Leaderboard.Url.Host
import Leaderboard.Url.LocalFile
import Leaderboard.Url.Name
import Leaderboard.Url.NameTable
import Leaderboard.Url.Parts
import Leaderboard.Url.Path
import Leaderboard.Url.Punycode
import Leaderboard.Url.Query
import Leaderboard.Url.Reader
import Leaderboard.Proofs.JsonDocument
import Leaderboard.Proofs.KeptRecords
import Leaderboard.Proofs.FeedPartitions
import Leaderboard.Proofs.ReachablePage
import Leaderboard.Proofs.UnreadField
import Leaderboard.Proofs.DeepLink
import Leaderboard.Proofs.EscapedText
import Leaderboard.Proofs.LoadHistory
import Leaderboard.Proofs.ModeAddress
import Leaderboard.Proofs.QueryReadings
import Leaderboard.Text.Ascii
import Leaderboard.Proofs.LiteralQueries
import Leaderboard.Proofs.LiteralCut
import Leaderboard.Proofs.ColumnKeys
import Leaderboard.Proofs.SortToggle
import Leaderboard.Proofs.RankMap
import Leaderboard.Proofs.Screens
import Leaderboard.Proofs.RunEndings
import Leaderboard.Proofs.QuietLog
import Leaderboard.Proofs.RepeatedSort
import Leaderboard.Proofs.QueryGrammar
import Leaderboard.Proofs.NumberText
import Leaderboard.Proofs.OwnText
import Leaderboard.Proofs.FilterHistory
import Leaderboard.Proofs.ShortestDigits
import Leaderboard.Proofs.CellText
import Leaderboard.Proofs.NumberParts
import Leaderboard.Proofs.FinalSigma
import Leaderboard.Proofs.TextSearch
import Leaderboard.Proofs.QuotedFields
import Leaderboard.Proofs.ExplanationFeed
import Leaderboard.Proofs.AbsentCells
import Leaderboard.Proofs.TableLayout
import Leaderboard.Proofs.CommandGroups
import Leaderboard.Proofs.NamedColumns
import Leaderboard.Proofs.ModePrecedence
import Leaderboard.Proofs.OpenPanel
import Leaderboard.Proofs.PromptCards
import Leaderboard.Proofs.AnchorWords
import Leaderboard.Proofs.ByteScan
