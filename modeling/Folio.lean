import Folio.Main
import Folio.Proofs.Audit.Soundness
import Folio.Proofs.Template.Delimiters
import Folio.Proofs.Template.RoundTrip
import Folio.Proofs.Scope
import Folio.Proofs.Render.Visibility
import Folio.Proofs.Render.Inclusion
import Folio.Proofs.Template.Cutting
import Folio.Proofs.Render.Course
import Folio.Proofs.Render.Termination
import Folio.Proofs.Render.Congruence
import Folio.Proofs.Render.Layers
import Folio.Proofs.Template.Quoting
import Folio.Proofs.Render.Repetition
import Folio.Proofs.Render.Failure
import Folio.Proofs.Audit.Listing
import Folio.Proofs.Render.Limit
import Folio.Proofs.Render.Privacy
import Folio.Proofs.Site.Places
import Folio.Proofs.Number.Reading
import Folio.Proofs.Template.Acceptance
import Folio.Proofs.Template.Tiling
import Folio.Proofs.Path
import Folio.Proofs.Site.Entrances
import Folio.Proofs.Site.Keeping
import Folio.Proofs.Site.Confinement
import Folio.Proofs.Value.Property
import Folio.Proofs.Site.Fences
import Folio.Proofs.Site.Refusals
import Folio.Proofs.Template.Dotted
import Folio.Proofs.Render.Shorthand
import Folio.Proofs.Render.Bindings
import Folio.Proofs.Value.Text
import Folio.Proofs.Site.Files
import Folio.Proofs.Site.Layouts
import Folio.Proofs.Render.Grouping
import Folio.Proofs.Template.Partition
import Folio.Proofs.Filter.Signature
import Folio.Proofs.Render.Nesting
import Folio.Proofs.Audit.Queue
