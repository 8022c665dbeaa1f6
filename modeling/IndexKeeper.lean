import IndexKeeper.Cluster
import IndexKeeper.Controller.Store
import IndexKeeper.Main
import IndexKeeper.Proofs.Cluster.Definition
import IndexKeeper.Proofs.Cluster.Departure
import IndexKeeper.Proofs.Cluster.Fixed
import IndexKeeper.Proofs.Controller.Acknowledgement
import IndexKeeper.Proofs.Controller.Failure
import IndexKeeper.Proofs.Http.Percent
import IndexKeeper.Proofs.Http.Segment
import IndexKeeper.Proofs.Manifest.Name
import IndexKeeper.Proofs.Manifest.Sparse
import IndexKeeper.Proofs.Ownership
import IndexKeeper.Proofs.Pass.Counting
import IndexKeeper.Proofs.Pass.Influence
import IndexKeeper.Proofs.Pass.Naming
import IndexKeeper.Proofs.Pass.Origin
import IndexKeeper.Proofs.Pass.Report
import IndexKeeper.Proofs.Realization
import IndexKeeper.Proofs.Remote.Address
import IndexKeeper.Proofs.Remote.ReadBack
import IndexKeeper.Proofs.Settings.Building
import IndexKeeper.Proofs.Settings.Decision
import IndexKeeper.Proofs.Settings.Echo
import IndexKeeper.Proofs.Settings.Pruning
import IndexKeeper.Proofs.Settings.Stripping
