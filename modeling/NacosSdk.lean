import NacosSdk.Lib.Run
import NacosSdk.Lib.Newest
import NacosSdk.Lib.Pending
import NacosSdk.Lib.Cells
import NacosSdk.Lib.Separator
import NacosSdk.Lib.SwapRemove
import NacosSdk.Lib.FileSystem
import NacosSdk.Lib.Watch
import NacosSdk.Common.Error
import NacosSdk.Common.HashMap
import NacosSdk.Common.DiskStore
import NacosSdk.Common.StorePath
import NacosSdk.Common.Cache
import NacosSdk.Config.CacheData
import NacosSdk.Config.Worker
import NacosSdk.Config.ChangeNotice
import NacosSdk.Config.ListenerRegistration
import NacosSdk.Config.Coherence
import NacosSdk.Config.FilterPaths
import NacosSdk.Config.Delivery
import NacosSdk.Config.Publish
import NacosSdk.Naming.ServiceInfo
import NacosSdk.Naming.ServiceInfoDiff
import NacosSdk.Naming.Observable
import NacosSdk.Naming.Observer
import NacosSdk.Naming.EventOrder
import NacosSdk.Naming.EmptyProtection
import NacosSdk.Naming.Redo
import NacosSdk.Naming.Updater
import NacosSdk.Naming.Service
import NacosSdk.Naming.Subscription
import NacosSdk.Naming.InstanceQuery
import NacosSdk.Naming.Reconnect
import NacosSdk.Naming.Publication
import NacosSdk.Naming.Deregister
import NacosSdk.Remote.Connection
import NacosSdk.Remote.ConnectionListeners
import NacosSdk.Remote.ServerStream
import NacosSdk.Remote.GrpcMessage
import NacosSdk.Common.DiskLoad
import NacosSdk.Config.Encryption
import NacosSdk.Naming.Acknowledgement
import NacosSdk.Config.Filling
import NacosSdk.Naming.UpdateLoops
import NacosSdk.Naming.UpdateDelay
import NacosSdk.Remote.ServerList
import NacosSdk.Remote.ServerListProvider
import NacosSdk.Lib.BinarySearch
import NacosSdk.Naming.Chooser
import NacosSdk.Naming.HostChanges
import NacosSdk.Lib.Fields
import NacosSdk.Lib.RoundRobin
import NacosSdk.Remote.HostPort
import NacosSdk.Remote.ServerText
import NacosSdk.Remote.PollingServerList
import NacosSdk.Remote.Tonic
import NacosSdk.Lib.WordSplit
import NacosSdk.Config.GroupKey
import NacosSdk.Naming.Isolation
import NacosSdk.Config.ListenerCalls
import NacosSdk.Lib.LastCall
import NacosSdk.Lib.Loop
import NacosSdk.Remote.PollReady
import NacosSdk.Auth.Plugin
import NacosSdk.Remote.SendRequest
import NacosSdk.Remote.ServerRequests
import NacosSdk.Config.PushHandler
import NacosSdk.Naming.PushHandler
import NacosSdk.Lib.Budget
import NacosSdk.Remote.HealthCheck
import NacosSdk.Remote.HealthBudget
import NacosSdk.Remote.HealthPace
import NacosSdk.Auth.HttpLogin
import NacosSdk.Config.ListWatch
import NacosSdk.Lib.Oneshot
import NacosSdk.Remote.GrpcCall
import NacosSdk.Remote.Backoff
import NacosSdk.Remote.RequestId
import NacosSdk.Common.DiskCrash
