import DeploymentManager.Strconv
import DeploymentManager.Counter
import DeploymentManager.Store
import DeploymentManager.Notify
import DeploymentManager.Registry
import DeploymentManager.MonitorRegistry
import DeploymentManager.Manager
import DeploymentManager.Thread
import DeploymentManager.Interleaving
import DeploymentManager.Callers
import DeploymentManager.Resource
