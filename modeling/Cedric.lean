import Cedric.Hub.Capacity
import Cedric.Hub.FailedReads
import Cedric.Hub.ReaderQueue
import Cedric.Hub.RawSamples
import Cedric.Hub.Poll
import Cedric.Hub.StepCounter
import Cedric.Hub.Masks
import Cedric.Hub.WakeMask
import Cedric.Hub.FusionReset
import Cedric.Hub.SetDelay
import Cedric.Hub.OneShot
import Cedric.Hub.GeomagReady
import Cedric.Hub.GeomagStartup
import Cedric.Hub.QuaternionForms
import Cedric.Hub.ResetBooks
import Cedric.Hub.RotationEvents
import Cedric.Hub.SixAxisReset
import Cedric.Hub.PendingReports
import Cedric.Hub.RearProxDecoding
import Cedric.Hub.DelayClamp
import Cedric.Hub.EnableErrors
import Cedric.Sensorhub.Consistency
import Cedric.Sensorhub.Decoders
import Cedric.Sensorhub.PollResult
import Cedric.Motosh.FlashImage
import Cedric.Motosh.ReadErrors
import Cedric.Motosh.ShortWrites
import Cedric.Motosh.Boot
import Cedric.Motosh.CommandSafety
import Cedric.Motosh.BitwiseCrc
import Cedric.Tof.Sessions
import Cedric.MotoshHal.WakeMask
import Cedric.MotoshHal.RateArbitration
import Cedric.MotoshHal.PollCustody
import Cedric.LineageActions.FlipToMute
import Cedric.LineageActions.RingingListeners
import Cedric.LineageActions.LineageActionsService
import Cedric.Health.CapacityRuns
import Cedric.Health.FailedSaves
import Cedric.Health.MalformedText
import Cedric.LineageActions.GestureActions
import Cedric.LineageActions.PocketTime
import Cedric.Light.Light
import Cedric.Power.Override
import Cedric.Power.HintLocks
import Cedric.Power.DisplayHint
import Cedric.Power.HintActions
import Cedric.Power.MetadataParser
import Cedric.Power.MetadataGrammar
import Cedric.Power.VideoEncodeHint
import Cedric.Power.HintPayload
import Cedric.Power.BoostSessions
import Cedric.Motosh.FileVersion
import Cedric.Motosh.RetryIoctl
import Cedric.Motosh.FlashCrc
import Cedric.NativeSensors.Delays
import Cedric.NativeSensors.FlushEvents
import Cedric.NativeSensors.Wakeups
import Cedric.NativeSensors.DrivenSensors
import Cedric.Akmd.Daemon
import Cedric.Akmd.Schedule
import Cedric.Health.HealthService
import Cedric.LineageActions.DozePulses
import Cedric.Libshims.ElemValues
import Cedric.Libshims.Mirror
