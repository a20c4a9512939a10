import Velvt.InterventionBackoff
import Velvt.DemotionSilence
import Velvt.ObservationLedger
import Velvt.EgressTamper
import Velvt.UploadPlacement
import Velvt.SiteNames
import Velvt.TypedNames
import Velvt.LearnedPrototypes
import Velvt.FocusHistory
import Velvt.MigrationRuns
import Velvt.HeldOutFindings
import Velvt.CacheFreshness
import Velvt.LogoutFinality
import Velvt.LiveLogins
import Velvt.SketchFidelity
import Velvt.RekeyedRules
import Velvt.RelayOrder
import Velvt.StoredSessions
import Velvt.OfferRuns
import Velvt.IntentionLifetime
import Velvt.DwellDelivery
import Velvt.OutcomeEvidence
import Velvt.IpcSafety
import Velvt.QuietOffers
import Velvt.RedactedBodies
import Velvt.CoverageMeasure
import Velvt.ResultTallies
import Velvt.DriftDepartures
import Velvt.BatchRoundTrip
import Velvt.RetryDelays
import Velvt.AttemptCounts
import Velvt.QuietConsent
import Velvt.CoherentSessions
import Velvt.AppRuleIdentity
import Velvt.QuietWindow
import Velvt.UnansweredInvitations
import Velvt.GoodHours
import Velvt.SqlLayout
import Velvt.PushOrder
import Velvt.ReminderPacing
import Velvt.CardIdentity
import Velvt.KeyIdentity
import Velvt.AbstractedWindows
import Velvt.Rehydration
import Velvt.FrameTransport
import Velvt.SwitchingClusters
import Velvt.SeedPatterns
import Velvt.SiteLookup
import Velvt.ChartConservation
import Velvt.FalseDiscoveries
import Velvt.RunLengthPosterior
import Velvt.TokenPhrases
import Velvt.CircularBuffer
import Velvt.PrototypeParsing
import Velvt.PolledInsights
import Velvt.DateNotifications
import Velvt.FittedModels
