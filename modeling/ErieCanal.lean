import ErieCanal.Proof.Boot.Startup
import ErieCanal.Proof.Cache.DefaultClass
import ErieCanal.Proof.Cache.EarlyPushes
import ErieCanal.Proof.Cache.EndpointTracking
import ErieCanal.Proof.Cache.ExternalNames
import ErieCanal.Proof.Cache.FreshCertificates
import ErieCanal.Proof.Cache.FullRebuild
import ErieCanal.Proof.Cache.MapApply
import ErieCanal.Proof.Cache.PublishAgreement
import ErieCanal.Proof.Cache.RefreshTracking
import ErieCanal.Proof.Cache.RegistryHash
import ErieCanal.Proof.Cache.RoutePaths
import ErieCanal.Proof.Cache.RouterBalancer
import ErieCanal.Proof.Cache.ServiceRegistry
import ErieCanal.Proof.Certificate.CaAgreement
import ErieCanal.Proof.Cluster.Agreement
import ErieCanal.Proof.Cluster.AnnouncedWithdrawals
import ErieCanal.Proof.Cluster.ImportConvergence
import ErieCanal.Proof.Cluster.ManagedReports
import ErieCanal.Proof.Cluster.Reconsideration
import ErieCanal.Proof.Cluster.SoleInCluster
import ErieCanal.Proof.Cluster.StaleFailures
import ErieCanal.Proof.Cluster.Takeover
import ErieCanal.Proof.Cluster.TargetClusters
import ErieCanal.Proof.Cluster.UpsertExact
import ErieCanal.Proof.Cluster.WellFormedImports
import ErieCanal.Proof.Config.Defaulter
import ErieCanal.Proof.Config.LostUpdates
import ErieCanal.Proof.Config.MainJsonFollows
import ErieCanal.Proof.Config.Passthrough
import ErieCanal.Proof.Export.EffectiveExports
import ErieCanal.Proof.Export.PathScan
import ErieCanal.Proof.Export.Recreation
import ErieCanal.Proof.Export.RouterPaths
import ErieCanal.Proof.Helm.RenderChart
import ErieCanal.Proof.Proxy.Certificates
import ErieCanal.Proof.Proxy.PresentedSecrets
import ErieCanal.Proof.Proxy.Rejections
import ErieCanal.Proof.Proxy.Streams
import ErieCanal.Proof.Proxy.UpstreamTLS
import ErieCanal.Proof.Repo.Commits
import ErieCanal.Proof.Repo.Retries
import ErieCanal.Proof.ServiceLB.Finalizers
import ErieCanal.Proof.ServiceLB.Reconcilers
import ErieCanal.Proof.ServiceLB.Status
import ErieCanal.Proof.ServiceLB.Teardown
