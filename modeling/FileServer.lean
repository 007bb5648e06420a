import FileServer.Main
import FileServer.Proofs.Text.Cut
import FileServer.Proofs.Text.Lines
import FileServer.Proofs.Text.Digits
import FileServer.Proofs.Text.Readers
import FileServer.Proofs.Net.Clients
import FileServer.Proofs.LogLines
import FileServer.Proofs.Config.Precedence
import FileServer.Proofs.Http.HeadGrammar
import FileServer.Proofs.Http.HeadLayout
import FileServer.Proofs.Reply
import FileServer.Proofs.Site.Outcomes
import FileServer.Proofs.Site.Drafts
import FileServer.Proofs.Site.Containment
import FileServer.Proofs.Disk.Agreement
import FileServer.Proofs.Site.Noninterference
import FileServer.Proofs.Http.Edits
import FileServer.Proofs.Http.Framing
import FileServer.Proofs.Wire
import FileServer.Proofs.Connection.Delivery
import FileServer.Proofs.Text.Utf8Exact
import FileServer.Proofs.Connection.Boundary
import FileServer.Proofs.HeadOnly
import FileServer.Proofs.Truthful
import FileServer.Proofs.Text.Escapes
import FileServer.Proofs.Text.Lossy
import FileServer.Proofs.Text.Replacement
import FileServer.Proofs.Site.Paths
import FileServer.Proofs.Site.Links
import FileServer.Proofs.Versions
import FileServer.Proofs.Site.Fragments
import FileServer.Proofs.Pages
import FileServer.Proofs.Http.Dates
import FileServer.Proofs.Site.Revalidation
import FileServer.Proofs.Http.Rejections
import FileServer.Proofs.Refusals
import FileServer.Proofs.Disk.Ways
import FileServer.Proofs.Disk.Reachable
import FileServer.Proofs.Site.Roots
import FileServer.Proofs.Text.Tags
import FileServer.Proofs.Site.Indexes
import FileServer.Proofs.Site.Listings
import FileServer.Proofs.Connection.Lingering
import FileServer.Proofs.Disk.Changes
import FileServer.Proofs.Site.Updates
