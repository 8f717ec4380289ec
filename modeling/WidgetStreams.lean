import WidgetStreams.Scenario.Run
import WidgetStreams.Value.Writer
import WidgetStreams.Proofs.History
import WidgetStreams.Proofs.Call
import WidgetStreams.Proofs.Delivery
import WidgetStreams.Proofs.Panicking
import WidgetStreams.Proofs.Owners
import WidgetStreams.Proofs.Windows
import WidgetStreams.Proofs.Mirrors
import WidgetStreams.Proofs.Rosters
import WidgetStreams.Proofs.Callbacks
import WidgetStreams.Proofs.Rounds
import WidgetStreams.Proofs.Serving
import WidgetStreams.Proofs.Aborting
import WidgetStreams.Proofs.Feeds
import WidgetStreams.Proofs.Twins
import WidgetStreams.Proofs.AlikeBridges
import WidgetStreams.Proofs.AlikePrograms
import WidgetStreams.Proofs.Releasing
import WidgetStreams.Proofs.Judging
import WidgetStreams.Proofs.AlikeStreams
import WidgetStreams.Proofs.Warming
import WidgetStreams.Proofs.Projecting
import WidgetStreams.Proofs.Footprint
import WidgetStreams.Proofs.Selecting
import WidgetStreams.Proofs.Edits
import WidgetStreams.Proofs.Rebuilding
import WidgetStreams.Proofs.Scopes
import WidgetStreams.Proofs.Scrolls
import WidgetStreams.Proofs.Queries
import WidgetStreams.Proofs.Choices
import WidgetStreams.Proofs.Paging
import WidgetStreams.Proofs.Overrides
import WidgetStreams.Proofs.Focusing
import WidgetStreams.Proofs.Menus
import WidgetStreams.Proofs.RoundTrip
import WidgetStreams.Proofs.Registrations
