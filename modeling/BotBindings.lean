import BotBindings.Main
import BotBindings.Proofs.Code.Clash
import BotBindings.Proofs.Page.Extraction
import BotBindings.Proofs.Page.TableShape
import BotBindings.Proofs.Phrase.RoundTrip
import BotBindings.Proofs.Plan.InsertionOrder
import BotBindings.Proofs.Request.Imports
import BotBindings.Proofs.Request.Modules
import BotBindings.Proofs.ReturnPhrase.Stability
import BotBindings.Proofs.Run.Confinement
import BotBindings.Proofs.Target.Fit
import BotBindings.Proofs.Upload.FileLeaves
import BotBindings.Proofs.Phrase.Occurrence
import BotBindings.Proofs.Phrase.Prose
import BotBindings.Proofs.ReturnPhrase.Earliest
import BotBindings.Proofs.Phrase.Collapsed
import BotBindings.Proofs.Page.Invariant
import BotBindings.Proofs.Page.FieldTable
import BotBindings.Proofs.Phrase.MediaList
import BotBindings.Proofs.Request.UnionMatch
import BotBindings.Proofs.Html.Finder
import BotBindings.Proofs.Files.Plain
import BotBindings.Proofs.Files.Rebuild
import BotBindings.Proofs.Request.Culprit
import BotBindings.Proofs.Request.Report
import BotBindings.Proofs.Code.Literal
import BotBindings.Proofs.Request.SerialNames
import BotBindings.Proofs.Registry.Arrangement
import BotBindings.Proofs.Plan.Renderable
import BotBindings.Proofs.Code.WrittenForm
import BotBindings.Proofs.Code.Attempts
