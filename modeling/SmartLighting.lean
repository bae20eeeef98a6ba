import SmartLighting.HandlerRaces
import SmartLighting.ZoneIndex
import SmartLighting.Episodes
import SmartLighting.FaultHandling
import SmartLighting.AlarmChains
import SmartLighting.LampStates
import SmartLighting.LampFaults
import SmartLighting.AtRest
import SmartLighting.SyncVersions
import SmartLighting.FaultPath
import SmartLighting.SessionScope
import SmartLighting.AckRace
import SmartLighting.Street
import SmartLighting.SessionQueue
import SmartLighting.SyncTables
import SmartLighting.DeviceMirror
import SmartLighting.CentralStream
import SmartLighting.SilentDevices
import SmartLighting.SensorPath
import SmartLighting.MotionZones
import SmartLighting.MotionFaults
import SmartLighting.SyncFormat
import SmartLighting.FrameStream
import SmartLighting.ZoneSums
import SmartLighting.SyncChain
import SmartLighting.MotionEdges
import SmartLighting.LampConsistency
import SmartLighting.TelemetryFormat
import SmartLighting.DeviceTable
import SmartLighting.SensorWatch
import SmartLighting.ServerStates
import SmartLighting.Installation
import SmartLighting.CentralThreads
import SmartLighting.LampRecovery
import SmartLighting.AlarmRelay
import SmartLighting.AdminSession
import SmartLighting.LampWatch
import SmartLighting.CatchUp
