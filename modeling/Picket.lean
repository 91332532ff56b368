import Picket.Proof.PeakRollup
import Picket.Proof.ConstantRollup
import Picket.Proof.Demux
import Picket.Proof.WindowAverage
import Picket.Proof.CoverageGate
import Picket.Proof.WrappedStats
import Picket.Proof.DiskBaseline
import Picket.Proof.ServiceStats
import Picket.Proof.Freshness
import Picket.Proof.Cancellation
import Picket.Proof.Pausing
import Picket.Proof.Quiescence
import Picket.Proof.Isolation
import Picket.Proof.Orphans
import Picket.Proof.ContainerTiers
import Picket.Proof.Cadence
import Picket.Proof.AlertDelay
import Picket.Proof.AlertHistory
import Picket.Proof.OneUpdater
import Picket.Proof.OneTimeLaunch
import Picket.Proof.Routing
import Picket.Proof.Answers
import Picket.Proof.Reconnecting
import Picket.Proof.OneWorker
import Picket.Proof.RealtimeCount
import Picket.Proof.AlertsCoherence
import Picket.Proof.CurrentRows
import Picket.Proof.Rebinding
import Picket.Proof.SocketTable
import Picket.Proof.StoreViews
import Picket.Lib.JsonStream
import Picket.DockerDecode
import Picket.Proof.DecodeAlone
import Picket.Lib.ObjectTable
import Picket.DockerApi
import Picket.DockerStats
import Picket.DockerTracker
import Picket.Proof.TrackerSteps
import Picket.Proof.DecodeReuse
import Picket.Proof.ContainerUpdate
import Picket.Proof.ContainerPolls
import Picket.Proof.ContainerRates
import Picket.Proof.ContainerLeaks
import Picket.Proof.ExactReports
import Picket.DiskStats
import Picket.SystemdServices
import Picket.GatherStats
import Picket.Proof.CachedCalls
import Picket.ContainerRates
import Picket.DiskReadings
import Picket.NetworkStats
import Picket.Proof.NetworkTotals
import Picket.GpuStats
import Picket.Proof.GpuAverages
import Picket.DiskDevices
import Picket.Proof.DeviceMatching
import Picket.DiskDiscovery
import Picket.Proof.RootFilesystem
import Picket.NvtopSlots
import Picket.Proof.SlotUpdates
import Picket.AmdNames
import Picket.Proof.NameCache
import Picket.Lib.Checked
import Picket.IntelGpu
import Picket.Proof.IntelGpu
import Picket.DockerLogs
import Picket.Proof.LogFrames
import Picket.UpdateHook
import Picket.Proof.UpdateHook
import Picket.AppUrl
import Picket.Proof.AppUrl
import Picket.RecordRows
import Picket.Proof.RecordRows
import Picket.Notifications
import Picket.Proof.Notifications
import Picket.StreamBridge
import Picket.ExpiryMap
import Picket.Proof.ExpiryMap
import Picket.Proof.StreamBridge
import Picket.ChartData
import Picket.Proof.ChartData
import Picket.AlertManager
import Picket.Proof.AlertManager
import Picket.Lib.Baselines
import Picket.CpuTimes
import Picket.Proof.CpuTimes
import Picket.Lib.Link
import Picket.TunnelBytes
import Picket.Proof.TunnelSteps
import Picket.Proof.TunnelBindings
import Picket.Proof.TunnelLinks
import Picket.Proof.Connectors
import Picket.Proof.TunnelUpstream
import Picket.Proof.TunnelSockets
import Picket.Proof.TunnelDownstream
import Picket.Proof.TunnelBytes
import Picket.StatsTable
import Picket.Proof.StatsTable
import Picket.Proof.StatsPeaks
import Picket.DetailsSync
import Picket.Proof.DetailsSync
import Picket.Exchange
import Picket.Proof.Exchange
