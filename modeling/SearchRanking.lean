import SearchRanking.Command.Directory
import SearchRanking.Main
import SearchRanking.Record.Sample
import SearchRanking.Session
import SearchRanking.Proofs.Order
import SearchRanking.Proofs.Ranking
import SearchRanking.Proofs.Text.Blank
import SearchRanking.Proofs.Path
import SearchRanking.Proofs.Pattern
import SearchRanking.Proofs.Json.Number
import SearchRanking.Proofs.Json.Reading
import SearchRanking.Proofs.Json.Container
import SearchRanking.Proofs.Json.Document
import SearchRanking.Proofs.Record.RoundTrip
import SearchRanking.Proofs.Demotion
import SearchRanking.Proofs.Pool
import SearchRanking.Proofs.Merit
import SearchRanking.Proofs.Renumbering
import SearchRanking.Proofs.InputOrder
import SearchRanking.Proofs.Raising
import SearchRanking.Proofs.Score.Rounding
import SearchRanking.Proofs.Score.Value
import SearchRanking.Proofs.NumericOrder
import SearchRanking.Proofs.Verdicts
import SearchRanking.Proofs.Decimal.Shortest
import SearchRanking.Proofs.Decimal.Literal
import SearchRanking.Proofs.Decimal.Nearest
import SearchRanking.Proofs.Decimal.Numeral
import SearchRanking.Proofs.Score.Literal
import SearchRanking.Proofs.Json.Scaling
import SearchRanking.Proofs.Json.ScoreText
import SearchRanking.Proofs.Record.ScoreFidelity
import SearchRanking.Proofs.Record.Decoders
import SearchRanking.Proofs.Json.Typed
import SearchRanking.Proofs.Config.Description
import SearchRanking.Proofs.Config.Reading
import SearchRanking.Proofs.Command.RankOutput
import SearchRanking.Proofs.Config.Validity
import SearchRanking.Proofs.Display.Alignment
import SearchRanking.Proofs.Command.Arguments
import SearchRanking.Proofs.Record.ScoreSlot
import SearchRanking.Proofs.Overrides
import SearchRanking.Proofs.Display.Geometry
import SearchRanking.Proofs.Record.Spelling
import SearchRanking.Proofs.Record.QuotedInteger
import SearchRanking.Proofs.Decimal.Plain
import SearchRanking.Proofs.Command.ScoreOutput
import SearchRanking.Proofs.Display.Truncation
import SearchRanking.Proofs.TitleOrder
import SearchRanking.Proofs.Samples
