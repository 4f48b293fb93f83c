import Kperf.Library.Transition
import Kperf.Library.Progress
import Kperf.Library.Crew
import Kperf.Library.Goroutine
import Kperf.Library.History
import Kperf.Library.Outcome
import Kperf.Library.Text
import Kperf.Library.ErrorTree
import Kperf.Library.Decimal
import Kperf.Library.Ledger
import Kperf.Library.Map
import Kperf.Library.LabelSelector
import Kperf.Library.ObjectSets
import Kperf.Library.ObjectSetsInvariant
import Kperf.Library.Path
import Kperf.Library.NetAddress
import Kperf.Library.Json
import Kperf.Library.TaggedCodec
import Kperf.Library.OrderStatistic
import Kperf.Library.ValueTree
import Kperf.Library.YamlBlock
import Kperf.Library.YamlReader
import Kperf.Types.LoadTraffic
import Kperf.Types.Validation
import Kperf.Types.LoadTrafficEncoding
import Kperf.Types.Metric
import Kperf.Types.MetricEncoding
import Kperf.Metrics.Errors
import Kperf.Metrics.Request
import Kperf.Metrics.Utils
import Kperf.Metrics.Percentiles
import Kperf.Request.Builder
import Kperf.Request.Generation
import Kperf.Request.WeightedChoice
import Kperf.Request.PayloadChoice
import Kperf.Request.RandomPayload
import Kperf.Request.Client
import Kperf.Request.PostDel
import Kperf.Request.PostDelProperties
import Kperf.Request.Schedule
import Kperf.Request.ScheduleTransition
import Kperf.Request.ScheduleAccounting
import Kperf.Request.ScheduleMeasurement
import Kperf.Request.SchedulePostDel
import Kperf.Request.ScheduleProgress
import Kperf.Request.Addressing
import Kperf.Request.MetricKeys
import Kperf.Cmd.Runner
import Kperf.Cmd.RunnerTotal
import Kperf.Cmd.LoadConfig
import Kperf.Cmd.ClientPool
import Kperf.Cmd.Utils
import Kperf.Runner.Summary
import Kperf.Runner.SummaryAggregation
import Kperf.Runner.SummaryTotal
import Kperf.Runner.SummaryMeasurement
import Kperf.Runner.ErrorStatistics
import Kperf.Runner.LocalStore
import Kperf.Runner.LocalStoreTransition
import Kperf.Runner.LocalStoreInvariant
import Kperf.Runner.LocalStoreHistory
import Kperf.Runner.LocalStoreContract
import Kperf.Runner.LocalStoreProgress
import Kperf.Runner.Server
import Kperf.Runner.ServerTransition
import Kperf.Runner.ServerUpload
import Kperf.Runner.ServerSummary
import Kperf.Runner.ServerProgress
import Kperf.Runner.ServerRoster
import Kperf.Runner.ServerHealth
import Kperf.Runner.ServerDelivery
import Kperf.Runner.Group.Wait
import Kperf.Runner.Group.WaitProperties
import Kperf.Runner.Group.WaitReactions
import Kperf.Runner.Group.SpecEncoding
import Kperf.Runner.Deployment
import Kperf.Runner.DeploymentSafety
import Kperf.Runner.DeploymentResult
import Kperf.Runner.DeploymentProgress
import Kperf.Runner.Routes
import Kperf.Helmcli.Release
import Kperf.Helmcli.ChartValues
import Kperf.VirtualCluster.Nodepool
import Kperf.VirtualCluster.NodepoolCalls
import Kperf.VirtualCluster.NodepoolControllers
import Kperf.VirtualCluster.NodepoolPresence
import Kperf.VirtualCluster.NodepoolListing
import Kperf.VirtualCluster.NodeNames
import Kperf.VirtualCluster.NodeNamesProperties
import Kperf.VirtualCluster.NodeLabels
import Kperf.Contrib.Configmaps
import Kperf.Contrib.ConfigmapsProperties
import Kperf.Contrib.ConfigmapsCommands
import Kperf.Contrib.Daemonsets
import Kperf.Contrib.Bench
import Kperf.Contrib.ReadUpdate
import Kperf.Contrib.CiliumData
import Kperf.Contrib.CiliumDataAccounting
import Kperf.Contrib.CiliumDataResult
import Kperf.Contrib.CiliumDataProgress
import Kperf.Contrib.JobBench
import Kperf.Contrib.JobBenchTransition
import Kperf.Contrib.JobBenchSafety
import Kperf.Contrib.JobBenchCleanup
import Kperf.Contrib.JobBenchProgress
