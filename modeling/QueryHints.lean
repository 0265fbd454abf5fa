import QueryHints.CommandLine.Serving
import QueryHints.Main
import QueryHints.Session
import QueryHints.Proofs.CachedDiscovery
import QueryHints.Proofs.CompletionTotality
import QueryHints.Proofs.SessionTransparency
import QueryHints.Proofs.StatelessService
import QueryHints.Proofs.LeastClosure
import QueryHints.Proofs.ExactAnswers
import QueryHints.Proofs.ExpandedKeys
import QueryHints.Proofs.FramePositions
import QueryHints.Proofs.JoinParameters
import QueryHints.Proofs.OuterContext
import QueryHints.Proofs.PlaceholderJoins
import QueryHints.Proofs.RearrangedValues
import QueryHints.Proofs.RegroupedEntries
import QueryHints.Proofs.MergeLaws
import QueryHints.Proofs.RuleContents
import QueryHints.Proofs.RuleSpellings
import QueryHints.Proofs.FrameReading
import QueryHints.Proofs.LetterPlacements
import QueryHints.Proofs.FragmentWorth
import QueryHints.Proofs.TokenFaults
import QueryHints.Proofs.RefusedRequests
import QueryHints.Proofs.CommandEndings
import QueryHints.Proofs.ExactRanking
import QueryHints.Proofs.LongerFragments
import QueryHints.Proofs.PatternText
import QueryHints.Proofs.RepeatedDiscovery
import QueryHints.Proofs.HookFailures
import QueryHints.Proofs.EditedText
import QueryHints.Proofs.AcceptedHints
import QueryHints.Proofs.OpenedJoins
import QueryHints.Proofs.RefusedIndexes
import QueryHints.Proofs.ShownValues
import QueryHints.Text.Encoding
import QueryHints.Text.Normal
import QueryHints.Web.Host.Address
import QueryHints.Web.Host.Authority
import QueryHints.Web.Request
