import EventManager.ToMathlib.Run
import EventManager.Dart.LinkedHashMap
import EventManager.Dart.Int
import EventManager.Dart.Console
import EventManager.Console.Model
import EventManager.Console.Change
import EventManager.Console.Runs
import EventManager.Console.Capacity
import EventManager.Console.Registrations
import EventManager.Console.Integrity
import EventManager.Console.Identifiers
import EventManager.Dart.Dynamic
import EventManager.Firebase.Database
import EventManager.App.Model
import EventManager.App.Clients
import EventManager.App.Deletion
import EventManager.App.ConcurrentEdits
import EventManager.App.Submission
import EventManager.App.Navigation
import EventManager.App.Logout
import EventManager.Console.Search
import EventManager.Console.Termination
import EventManager.App.Stack
import EventManager.App.EventLists
import EventManager.App.Filtering
import EventManager.App.Stored
import EventManager.App.Tracking
import EventManager.App.Attendance
import EventManager.App.Bodies
import EventManager.App.Fullness
import EventManager.Dart.Dialogue
import EventManager.Console.Interaction
import EventManager.Console.Budget
import EventManager.Console.Listing
import EventManager.App.Reachable
import EventManager.App.Accounts
import EventManager.App.Provenance
import EventManager.App.Convergence
import EventManager.App.Device
import EventManager.App.Mirrors
import EventManager.App.Following
import EventManager.App.Refinement
import EventManager.App.Access
import EventManager.App.Origin
import EventManager.App.OneDevice
