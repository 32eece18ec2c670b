import Provisioner.Gateway.Script
import Provisioner.Main
import Provisioner.Proofs.Atomicity
import Provisioner.Proofs.Canonical
import Provisioner.Proofs.Changing
import Provisioner.Proofs.Command.Iteration
import Provisioner.Proofs.Confinement
import Provisioner.Proofs.Connecting
import Provisioner.Proofs.Documents
import Provisioner.Proofs.Dropping
import Provisioner.Proofs.Exporting
import Provisioner.Proofs.Format
import Provisioner.Proofs.Http.Paging
import Provisioner.Proofs.Http.Routes
import Provisioner.Proofs.Labelling
import Provisioner.Proofs.Refusals
import Provisioner.Proofs.RoundTrip
import Provisioner.Proofs.Settling
import Provisioner.Proofs.Showing
import Provisioner.Proofs.Time.Duration
import Provisioner.Proofs.UnitOfWork
import Provisioner.Proofs.Workspaces
