import Edtf.ByteText
import Edtf.Histories
import Edtf.GreedyMatching
import Edtf.KeptState
import Edtf.I2CBus
import Edtf.I2CScript
import Edtf.I2CPromises
import Edtf.I2CAttempts
import Edtf.I2CMemory
import Edtf.SerialPort
import Edtf.RegisterBank
import Edtf.Assertions
import Edtf.BodyTraces
import Edtf.SortedSets
import Edtf.Registry
import Edtf.Results
import Edtf.RunOne
import Edtf.Verdicts
import Edtf.FatalAborts
import Edtf.Interleaving
import Edtf.Reporters
import Edtf.Runs
import Edtf.Deadlines
import Edtf.Reruns
import Edtf.ReportReading
import Edtf.Listing
import Edtf.CommandLine
import Edtf.TapReports
import Edtf.ConsoleReports
import Edtf.Markup
import Edtf.JunitReports
import Edtf.ReportAgreement
import Edtf.TapReadback
import Edtf.JunitReadback
import Edtf.Utf8Text
import Edtf.XmlCharacters
import Edtf.Selection
import Edtf.TagSpecs
import Edtf.BytePairs
import Edtf.TemperatureSensor
import Edtf.TimeoutValues
import Edtf.SensorRegisters
import Edtf.Clients
import Edtf.DriverScripts
import Edtf.ScriptVerdicts
import Edtf.SensorScripts
import Edtf.SharedBus
import Edtf.I2CAbstraction
import Edtf.I2CTexts
import Edtf.RaisedDeadlines
import Edtf.RunnerProgress
import Edtf.Schedules
import Edtf.ConsoleColors
import Edtf.InterruptedRuns
import Edtf.SensorDevice
import Edtf.Softening
import Edtf.ArgumentGrammar
import Edtf.EndToEnd
import Edtf.JunitRebuild
import Edtf.Peripherals
import Edtf.MemoryTraces
import Edtf.Recordings
import Edtf.Shards
import Edtf.BusObservations
