import Broadphase.Codec.Scene
import Broadphase.Contacts.Sweep
import Broadphase.Grid.Action
import Broadphase.Grid.InPlace
import Broadphase.Grid.Query
import Broadphase.Grid.Refresh
import Broadphase.Grid.Scan
import Broadphase.Label.Number
import Broadphase.NarrowPhase.Predicate
import Broadphase.Region.Walk
import Broadphase.Scalar.Floating
import Broadphase.Session
import Broadphase.Tracker.Run
import Broadphase.Tracker.Traversal
import Broadphase.Proofs.Codec.Laws
import Broadphase.Proofs.Codec.Scene
import Broadphase.Proofs.Contacts.Rounds
import Broadphase.Proofs.Contacts.Runs
import Broadphase.Proofs.Grid.Adjacency
import Broadphase.Proofs.Grid.Alike
import Broadphase.Proofs.Grid.Boxes
import Broadphase.Proofs.Grid.Consistency
import Broadphase.Proofs.Grid.Directory
import Broadphase.Proofs.Grid.InPlace
import Broadphase.Proofs.Grid.Query
import Broadphase.Proofs.Grid.Refresh
import Broadphase.Proofs.Grid.Walks
import Broadphase.Proofs.Listener.Mirrors
import Broadphase.Proofs.NarrowPhase.Points
import Broadphase.Proofs.NarrowPhase.Reach
import Broadphase.Proofs.NarrowPhase.Symmetry
import Broadphase.Proofs.Region.Walk
import Broadphase.Proofs.Scalar.Monotone
import Broadphase.Proofs.Scan.Candidates
import Broadphase.Proofs.Session.Deliveries
import Broadphase.Proofs.Session.Failures
import Broadphase.Proofs.Session.Simulation
import Broadphase.Proofs.Tracker.BruteForce
import Broadphase.Proofs.Tracker.Hidden
import Broadphase.Proofs.Tracker.Parallel
import Broadphase.Proofs.Tracker.Renaming
import Broadphase.Proofs.Tracker.Rounding
import Broadphase.Proofs.Tracker.Rounds
import Broadphase.Proofs.Tracker.Traversals
