import StreamHost.Config.Encode
import StreamHost.Connection.Journal
import StreamHost.Main
import StreamHost.Metrics
import StreamHost.Tls.Sample
import StreamHost.Proofs.GroupMembership
import StreamHost.Proofs.StateCourse
import StreamHost.Proofs.Interleaving
import StreamHost.Proofs.ServerSteps
import StreamHost.Proofs.ServerDisposal
import StreamHost.Proofs.ServerRelease
import StreamHost.Proofs.HandleLoss
import StreamHost.Proofs.RegistryHistory
import StreamHost.Proofs.WildcardLabels
import StreamHost.Proofs.Effects
import StreamHost.Proofs.SessionCourse
import StreamHost.Proofs.NoticeOrder
import StreamHost.Proofs.ClientNotices
import StreamHost.Proofs.ConfigurationErrors
import StreamHost.Proofs.Isolation
import StreamHost.Proofs.RunningServer
import StreamHost.Proofs.EmptyGroup
import StreamHost.Proofs.SettingsChecks
import StreamHost.Proofs.SettingsRegistry
import StreamHost.Proofs.HandshakeLimits
import StreamHost.Proofs.ClientOutcome
import StreamHost.Proofs.PlaceLimits
import StreamHost.Proofs.TimeoutLimits
import StreamHost.Proofs.MetricsTally
import StreamHost.Proofs.Retagging
import StreamHost.Proofs.NumberTexts
import StreamHost.Proofs.AddressTexts
import StreamHost.Proofs.EndpointTargets
import StreamHost.Proofs.Requests
import StreamHost.Proofs.HalfClose
import StreamHost.Proofs.Devices
import StreamHost.Proofs.TapTransparency
import StreamHost.Proofs.NormalForms
import StreamHost.Proofs.SettingsReports
import StreamHost.Proofs.Spellings
import StreamHost.Proofs.CallSteps
import StreamHost.Proofs.Disposals
import StreamHost.Proofs.Lifecourses
import StreamHost.Proofs.Futures
import StreamHost.Proofs.Contention
import StreamHost.Proofs.Exchanges
import StreamHost.Proofs.EchoTraffic
