import DeviceHal.Camera.BatchNotify
import DeviceHal.Camera.CallbackRefs
import DeviceHal.Camera.CamQueue
import DeviceHal.Camera.CameraOpen
import DeviceHal.Camera.ConfigCaptureRun
import DeviceHal.Camera.CropMapper
import DeviceHal.Camera.DeliveryOrder
import DeviceHal.Camera.FrameSyncRun
import DeviceHal.Camera.JpegOutput
import DeviceHal.Camera.LayoutsHold
import DeviceHal.Camera.MmJpegRun
import DeviceHal.Camera.MpoJoin
import DeviceHal.Camera.MpoScan
import DeviceHal.Camera.MuxerFrames
import DeviceHal.Camera.MuxerOpen
import DeviceHal.Camera.MuxerRelease
import DeviceHal.Camera.OmxCore
import DeviceHal.Camera.ReprocTable
import DeviceHal.Camera.ReprocessPairs
import DeviceHal.Camera.StartRetry
import DeviceHal.Camera.SyncCmd
import DeviceHal.Gps.AgpsCoherence
import DeviceHal.Gps.AgpsHome
import DeviceHal.Gps.AgpsRelease
import DeviceHal.Gps.AgpsSsr
import DeviceHal.Gps.AgpsStranded
import DeviceHal.Gps.ApiClients
import DeviceHal.Gps.Framework
import DeviceHal.Gps.GeofenceDict
import DeviceHal.Gps.LocCfg
import DeviceHal.Gps.MsgQ
import DeviceHal.Gps.NmeaGsa
import DeviceHal.Gps.SessionPairing
import DeviceHal.Gps.SystemStatusNmea
import DeviceHal.Gps.TimersKept
import DeviceHal.Gps.TrackingClients
import DeviceHal.IpaNat.Addressing
import DeviceHal.IpaNat.Capacity
import DeviceHal.IpaNat.HitlessDelete
import DeviceHal.IpaNat.RoundTrip
import DeviceHal.IpaNat.Sizing
import DeviceHal.Ipacm.Bridged
import DeviceHal.Ipacm.DeferredConfig
import DeviceHal.Ipacm.DispatchRun
import DeviceHal.Ipacm.EarlyClients
import DeviceHal.Ipacm.EthHeaders
import DeviceHal.Ipacm.NatIfaces
import DeviceHal.Ipacm.PrefixParser
import DeviceHal.Ipacm.PrivateSubnets
import DeviceHal.Ipacm.Provenance
import DeviceHal.Ipacm.RmDepend
import DeviceHal.Ipacm.StaClients
import DeviceHal.Ipacm.TempFlush
import DeviceHal.Ipacm.UplinkPrefix
import DeviceHal.Ipacm.UplinkTally
import DeviceHal.Ipacm.WakeUp
import DeviceHal.Ipacm.WanEvents
import DeviceHal.Ipacm.WanTable
import DeviceHal.Ipacm.WlanRun
import DeviceHal.Sensors.PollRun
