import Rs485Gateway.Daemon.BusDiscipline
import Rs485Gateway.Daemon.ScanCoverage
import Rs485Gateway.Daemon.Footprint
import Rs485Gateway.Lists.FailureRun
import Rs485Gateway.Daemon.CommLoss
import Rs485Gateway.Daemon.Freshness
import Rs485Gateway.Interaction.Guarantee
import Rs485Gateway.Daemon.PoolHistory
import Rs485Gateway.Daemon.StoredReads
import Rs485Gateway.Daemon.DutyLimits
import Rs485Gateway.Daemon.AlarmReadings
import Rs485Gateway.Daemon.PoolSharing
import Rs485Gateway.Device.PendingWrites
import Rs485Gateway.Daemon.Registers
import Rs485Gateway.Daemon.Coalescing
import Rs485Gateway.Daemon.InitSequence
import Rs485Gateway.Cmos.ReceiveLoop
import Rs485Gateway.Cmos.HandleLine
import Rs485Gateway.Cmos.Publish
import Rs485Gateway.Cmos.Delivery
import Rs485Gateway.Cmos.RoundTrip
import Rs485Gateway.Cmos.Broadcast
import Rs485Gateway.Cmos.Connections
import Rs485Gateway.Cmos.SharedStrtok
import Rs485Gateway.Modbus.Bytes
import Rs485Gateway.Modbus.RtuClient
import Rs485Gateway.Modbus.TcpClient
import Rs485Gateway.Modbus.Agreement
import Rs485Gateway.Modbus.WriteAcks
import Rs485Gateway.Modbus.StreamSync
import Rs485Gateway.Modbus.TcpReads
import Rs485Gateway.Device.AccessRange
import Rs485Gateway.Device.AlarmEvents
import Rs485Gateway.Daemon.AlarmPasses
import Rs485Gateway.Device.CmdRing
import Rs485Gateway.Device.QueueHistory
import Rs485Gateway.Daemon.PairedWrites
import Rs485Gateway.Modbus.TcpRequests
import Rs485Gateway.Lists.Ledger
import Rs485Gateway.Modbus.SharedBus
import Rs485Gateway.Modbus.SharedBusRuns
import Rs485Gateway.Modbus.PortSharing
import Rs485Gateway.Daemon.LineSpeed
import Rs485Gateway.Cmos.PublisherStop
import Rs485Gateway.Modbus.UnitLink
import Rs485Gateway.Daemon.TransportState
import Rs485Gateway.Lists.CrcRegister
import Rs485Gateway.Modbus.CrcDetection
import Rs485Gateway.Modbus.RtuReads
import Rs485Gateway.Modbus.TcpResponses
import Rs485Gateway.Lists.Rotation
import Rs485Gateway.Daemon.AlarmLog
import Rs485Gateway.Daemon.DutyRoundTrip
import Rs485Gateway.Lists.Numerals
import Rs485Gateway.Daemon.NumberCommands
import Rs485Gateway.Modbus.Handoff
import Rs485Gateway.Lists.Storage
import Rs485Gateway.Config.Loader
import Rs485Gateway.Config.LoadOutcome
import Rs485Gateway.Modbus.RequestFrames
import Rs485Gateway.Lists.Bisection
import Rs485Gateway.Device.FindSlot
import Rs485Gateway.Cmos.PublishSizes
import Rs485Gateway.Lists.Coalesced
import Rs485Gateway.Daemon.Requests
import Rs485Gateway.Daemon.UnitOperations
import Rs485Gateway.Daemon.CommandFlow
import Rs485Gateway.Daemon.Reboots
import Rs485Gateway.Numbers.Rounding
import Rs485Gateway.Numbers.FloatText
import Rs485Gateway.Bridge.DutyText
import Rs485Gateway.Lists.Shares
import Rs485Gateway.Bridge.CommandRoutes
import Rs485Gateway.Bridge.InverterOrders
import Rs485Gateway.Bridge.Publisher
import Rs485Gateway.Bridge.Readings
