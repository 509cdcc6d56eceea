import HistorySearch.Main
import HistorySearch.Proofs.Fallible
import HistorySearch.Proofs.Calendar.Days
import HistorySearch.Proofs.Text.Decimal
import HistorySearch.Proofs.Text.FormEncoded
import HistorySearch.Web.Server
import HistorySearch.Proofs.Calendar.Written
import HistorySearch.Proofs.Calendar.Shown
import HistorySearch.Proofs.Calendar.Denoted
import HistorySearch.Proofs.Search.Merge
import HistorySearch.Proofs.Search.LastWrite
import HistorySearch.Proofs.Search.RoundTrip
import HistorySearch.Proofs.Search.Session
import HistorySearch.Proofs.Search.Shared
import HistorySearch.Proofs.Search.Successive
import HistorySearch.Proofs.Search.Mirrored
import HistorySearch.Proofs.Search.Layout
import HistorySearch.Proofs.Search.Meaning
import HistorySearch.Proofs.Search.Rewritten
import HistorySearch.Proofs.Json.Spelled
import HistorySearch.Proofs.Json.RoundTrip
import HistorySearch.Proofs.Search.Encoded
import HistorySearch.Proofs.Url.Path
import HistorySearch.Proofs.Url.Readers
import HistorySearch.Proofs.Url.Reference
import HistorySearch.Proofs.Url.Printable
import HistorySearch.Proofs.Url.Settled
import HistorySearch.Proofs.Url.SamePlace
import HistorySearch.Proofs.Web.Route
import HistorySearch.Proofs.Web.Posted
import HistorySearch.Proofs.Web.Redated
import HistorySearch.Proofs.Web.Site
import HistorySearch.Proofs.Web.Redirect
import HistorySearch.Proofs.Web.Resubmission
import HistorySearch.Proofs.Web.Outcome
import HistorySearch.Proofs.Web.Handoff
import HistorySearch.Proofs.Web.Serving
import HistorySearch.Proofs.Web.Corrected
import HistorySearch.Proofs.Web.Openings
import HistorySearch.Proofs.Web.Faithful
import HistorySearch.Proofs.Command.Posted
import HistorySearch.Proofs.Url.Address
import HistorySearch.Proofs.Toml.Texts
import HistorySearch.Proofs.Toml.Lines
import HistorySearch.Proofs.Settings.Files
import HistorySearch.Proofs.Settings.Saved
import HistorySearch.Proofs.Url.Host
import HistorySearch.Proofs.Url.Fixed
import HistorySearch.Proofs.Command.FedBack
import HistorySearch.Proofs.Calendar.AnyOrder
import HistorySearch.Proofs.Search.Entries
import HistorySearch.Proofs.Web.Responders
import HistorySearch.Proofs.Settings.Found
import HistorySearch.Proofs.Command.Initialized
