import LavaMaster.Model.Python
import LavaMaster.Model.Store
import LavaMaster.Model.Master
import LavaMaster.Model.Control
import LavaMaster.Model.Dispatch
import LavaMaster.Model.Logging
import LavaMaster.Model.MainLoop
import LavaMaster.Properties.Frame
import LavaMaster.Properties.Handlers
import LavaMaster.Properties.Registry
import LavaMaster.Properties.Lifecycle
import LavaMaster.Properties.Resync
import LavaMaster.Properties.Failure
import LavaMaster.Properties.LogIngest
import LavaMaster.Properties.Paths
import LavaMaster.Properties.Sweeps
import LavaMaster.Properties.Loop
import LavaMaster.Properties.Replies
import LavaMaster.Properties.Routing
import LavaMaster.Properties.Transactions
import LavaMaster.Properties.Groups
import LavaMaster.Properties.Status
