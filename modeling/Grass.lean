import Grass.Lib.Transition
import Grass.Model.Request
import Grass.Model.Sending
import Grass.Model.Game
import Grass.Model.Grading
import Grass.Model.World
import Grass.Model.Handler
import Grass.Model.Cluster
import Grass.Lobby.Invariant
import Grass.Lobby.Membership
import Grass.Lobby.Record
import Grass.Refinement.Abstraction
import Grass.Refinement.Connection
import Grass.Refinement.Refines
import Grass.Guarantee.Admission
import Grass.Guarantee.Answers
import Grass.Guarantee.Hosting
import Grass.Guarantee.Privacy
import Grass.Guarantee.Records
import Grass.Guarantee.Replication
import Grass.Guarantee.Timeout
import Grass.Guarantee.Frames
import Grass.Guarantee.Initialising
import Grass.Guarantee.Panics
import Grass.Guarantee.Progress
import Grass.Guarantee.Grading
import Grass.Guarantee.Deadlock
import Grass.Guarantee.Agreement
import Grass.Guarantee.Farewell
import Grass.Guarantee.Starting
import Grass.Guarantee.Credit
import Grass.Guarantee.Reports
import Grass.Guarantee.Broadcast
import Grass.Guarantee.Keys
import Grass.Guarantee.Greeting
import Grass.Guarantee.Acknowledgement
import Grass.Guarantee.Calls
import Grass.Guarantee.History
import Grass.Guarantee.Roster
import Grass.Guarantee.Ending
import Grass.Guarantee.Condition
import Grass.Guarantee.Runs
import Grass.Guarantee.Work
import Grass.Guarantee.Locality
import Grass.Guarantee.Format
import Grass.Guarantee.Asking
import Grass.Guarantee.Directory
import Grass.Guarantee.Finishing
import Grass.Guarantee.Truth
import Grass.Guarantee.Departure
import Grass.Guarantee.Scene
import Grass.Guarantee.Service
import Grass.Guarantee.Reordering
