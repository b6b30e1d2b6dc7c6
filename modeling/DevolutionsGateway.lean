import DevolutionsGateway.Layout
import DevolutionsGateway.Disk
import DevolutionsGateway.DisconnectedTtl
import DevolutionsGateway.Handlers
import DevolutionsGateway.ManagerLoop
import DevolutionsGateway.SessionMachine
import DevolutionsGateway.Index
import DevolutionsGateway.Eviction
import DevolutionsGateway.Manifests
import DevolutionsGateway.Timing
import DevolutionsGateway.ErrorPaths
import DevolutionsGateway.Protocol
import DevolutionsGateway.Registry
import DevolutionsGateway.Subscriber
import DevolutionsGateway.Completion
import DevolutionsGateway.Composition
