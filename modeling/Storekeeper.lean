import Storekeeper.Main
import Storekeeper.Message.Read
import Storekeeper.Settings.Deployment
import Storekeeper.Proofs.Dialogue.Failing
import Storekeeper.Proofs.Dialogue.Isolation
import Storekeeper.Proofs.Dialogue.Parking
import Storekeeper.Proofs.Dialogue.Provenance
import Storekeeper.Proofs.Dialogue.Interleaving
import Storekeeper.Proofs.Dialogue.Delivery
import Storekeeper.Proofs.Dialogue.Pricing
import Storekeeper.Proofs.Dialogue.Skipping
import Storekeeper.Proofs.Dialogue.Ordering
import Storekeeper.Proofs.Dialogue.Aborting
import Storekeeper.Proofs.Dialogue.Gating
import Storekeeper.Proofs.Dialogue.Cancelling
import Storekeeper.Proofs.Dialogue.Rejecting
import Storekeeper.Proofs.Dialogue.Accumulating
import Storekeeper.Proofs.Dialogue.Choosing
import Storekeeper.Proofs.Dialogue.Counting
import Storekeeper.Proofs.Http.Circuit
import Storekeeper.Proofs.Http.Overlap
import Storekeeper.Proofs.Http.Counting
import Storekeeper.Proofs.Catalog.Attempting
import Storekeeper.Proofs.Catalog.Listing
import Storekeeper.Proofs.Checked.Reading
import Storekeeper.Proofs.Loading
import Storekeeper.Proofs.Messages.History
import Storekeeper.Proofs.Messages.Filling
import Storekeeper.Proofs.Message.Sending
import Storekeeper.Proofs.Flow.Format
import Storekeeper.Proofs.Flow.Respelling
import Storekeeper.Proofs.Flow.NormalForm
import Storekeeper.Proofs.Notification.Content
import Storekeeper.Proofs.Server.Receiving
import Storekeeper.Proofs.Product.Rendering
import Storekeeper.Proofs.Product.Acceptance
import Storekeeper.Proofs.Product.Canonical
import Storekeeper.Proofs.Session.Writes
import Storekeeper.Proofs.Session.Locking
