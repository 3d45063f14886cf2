import TeensyI2C.WireMaster
import TeensyI2C.RegisterAccess
import TeensyI2C.RegisterSlave.Confinement
import TeensyI2C.Slave.BitError
import TeensyI2C.Master.Confinement
import TeensyI2C.Master.NeverStuck
import TeensyI2C.Master.WaitsForStop
import TeensyI2C.Master.WriteReport
import TeensyI2C.RegisterSlave.NotificationLog
import TeensyI2C.Loopback.Devices
import TeensyI2C.Loopback.FindSlaves
import TeensyI2C.Loopback.OneBus
import TeensyI2C.Loopback.WirePrograms
import TeensyI2C.Master.NakClasses
import TeensyI2C.Master.ReadDelivery
import TeensyI2C.Master.WriteSequence
import TeensyI2C.WireSlave
import TeensyI2C.WireTransmissions
import TeensyI2C.Slave.BufferUpdates
import TeensyI2C.Timing.WorstCase
