import BoosterSdk.DedicatedJoin
import BoosterSdk.PoseTracker
import BoosterSdk.EndpointOwnership
import BoosterSdk.BatchOverflow
import BoosterSdk.Metrics
import BoosterSdk.Timing
import BoosterSdk.ChannelBookkeeping
import BoosterSdk.MoveController
import BoosterSdk.ArmFinish
import BoosterSdk.WireFormat
import BoosterSdk.DispatchSwitch
import BoosterSdk.DispatchOutcomes
import BoosterSdk.DispatchEquivalence
import BoosterSdk.TurnOutcome
import BoosterSdk.MoveToTarget
import BoosterSdk.StopAtEnd
import BoosterSdk.VisionApi
import BoosterSdk.HandEyeCalibApi
import BoosterSdk.HandEyeCalibText
import BoosterSdk.DeviceInfo
import BoosterSdk.Library.IntegerText
import BoosterSdk.LightControlApi
import BoosterSdk.NarrowIntegers
import BoosterSdk.Library.Base64
import BoosterSdk.Library.Utf8
import BoosterSdk.LuiInputLimits
import BoosterSdk.HeadingReduction
import BoosterSdk.JsonSerializer
import BoosterSdk.JsonEscapes
import BoosterSdk.JsonNumbers
import BoosterSdk.JsonLexer
import BoosterSdk.JsonParser
import BoosterSdk.Library.JsonGrammar
import BoosterSdk.JsonStrings
import BoosterSdk.JsonNumerals
import BoosterSdk.JsonTokens
import BoosterSdk.JsonParsing
import BoosterSdk.JsonRoundTrip
import BoosterSdk.Library.JsonAlike
import BoosterSdk.WireText
import BoosterSdk.LocoClient
import BoosterSdk.LocoQueries
import BoosterSdk.NonFinite
