import SrsDaq.Data.Bytes
import SrsDaq.Data.Gray
import SrsDaq.Data.Layout
import SrsDaq.Data.Columns
import SrsDaq.Data.JsonText
import SrsDaq.Data.Path
import SrsDaq.Data.IpAddress
import SrsDaq.Data.TransitionSystem
import SrsDaq.Data.LossyQueue
import SrsDaq.Data.Metering
import SrsDaq.Utils.CommonDefinitions
import SrsDaq.Utils.CommonFunctions
import SrsDaq.Utils.CommonFunctionsLemmas
import SrsDaq.Utils.ZppBits
import SrsDaq.Utils.Serializer
import SrsDaq.Utils.SerializerLemmas
import SrsDaq.Utils.AppStatus
import SrsDaq.Utils.AppStatusLemmas
import SrsDaq.Utils.ConnectionBase
import SrsDaq.Utils.ConnectionBaseLemmas
import SrsDaq.Analysis.DataStructs
import SrsDaq.Analysis.DataWriterOptions
import SrsDaq.Analysis.JsonWriter
import SrsDaq.Analysis.DataWriter
import SrsDaq.Analysis.DataProcessor
import SrsDaq.Analysis.DataStructsLemmas
import SrsDaq.Analysis.JsonWriterLemmas
import SrsDaq.Analysis.CompactExportData
import SrsDaq.Analysis.DataWriterLemmas
import SrsDaq.Analysis.OutputFilenames
import SrsDaq.Analysis.SocketOutputs
import SrsDaq.Analysis.WriterOperations
import SrsDaq.Analysis.DataProcessorLemmas
import SrsDaq.Analysis.FrameFormat
import SrsDaq.Analysis.Outputs
import SrsDaq.Analysis.Acquisition
import SrsDaq.Analysis.AcquisitionLemmas
import SrsDaq.Analysis.ProcessedFrames
import SrsDaq.Analysis.Stop
import SrsDaq.Analysis.DataMonitor
import SrsDaq.Application
import SrsDaq.ApplicationLemmas
import SrsDaq.Shutdown
import SrsDaq.DataQueue
import SrsDaq.Recording
import SrsDaq.SentFrames
import SrsDaq.Acknowledgement
import SrsDaq.ExitRace
import SrsDaq.StartRace
import SrsDaq.Invariants
import SrsDaq.Overrun
import SrsDaq.MonitoredApp
import SrsDaq.EndOfRead
import SrsDaq.Release
import SrsDaq.FailedStart
import SrsDaq.ControlPort
import SrsDaq.SwitchOff
import SrsDaq.Released
import SrsDaq.Joined
import SrsDaq.Joining
import SrsDaq.MissedAbort
