import Codebox.Domain.WorkspacePath
import Codebox.Domain.SessionGrammar
import Codebox.Persist
import Codebox.Login.Prompt
import Codebox.Login.Spawning
import Codebox.Cloud.Timestamp
import Codebox.Cloud.StatusText
import Codebox.Cloud.Drain
import Codebox.Cloud.Mutators
import Codebox.Cloud.Listing
import Codebox.Cloud.Wakeups
import Codebox.Cloud.Resolution
import Codebox.Cloud.DiffAuthority
import Codebox.Cloud.Restart
import Codebox.Session.Backoff
import Codebox.Session.LowerStarts
import Codebox.Session.Distinct
import Codebox.Session.Durable
import Codebox.ControlPlane.Bootstrap
import Codebox.ControlPlane.OperatorSessions
import Codebox.ControlPlane.Shutdown
import Codebox.ControlPlane.Storage
import Codebox.ControlPlane.Expiry
import Codebox.Client.StreamFailure
import Codebox.Client.Snapshot
