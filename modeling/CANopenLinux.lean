import CANopenLinux.ForStd.UInt
import CANopenLinux.ForStd.List
import CANopenLinux.Native.Can
import CANopenLinux.Native.ErrorHandler
import CANopenLinux.Native.Driver
import CANopenLinux.Native.DriverIo
import CANopenLinux.Native.MultiInterface
import CANopenLinux.Native.Epoll
import CANopenLinux.Native.Crc
import CANopenLinux.Native.Fs
import CANopenLinux.Native.Storage
import CANopenLinux.Native.Gateway
import CANopenLinux.Native.Mainline
import CANopenLinux.Native.MainLoop
import CANopenLinux.Native.Threads
import CANopenLinux.Native.Startup
import CANopenLinux.Spec.ListenOnly
import CANopenLinux.Spec.RxFilters
import CANopenLinux.Spec.InterfaceFailure
import CANopenLinux.Spec.RxDispatch
import CANopenLinux.Spec.RxOverflow
import CANopenLinux.Spec.IdentTables
import CANopenLinux.Spec.EpollTimer
import CANopenLinux.Spec.TxCount
import CANopenLinux.Spec.TxSuppression
import CANopenLinux.Spec.StorageEffects
import CANopenLinux.Spec.StorageInit
import CANopenLinux.Spec.StorageRoundTrip
import CANopenLinux.Spec.StorageCrash
import CANopenLinux.Spec.StorageAutoSave
import CANopenLinux.Spec.AutoSaveRace
import CANopenLinux.Spec.GatewaySession
import CANopenLinux.Spec.GatewayTimeout
import CANopenLinux.Spec.GatewayStdio
import CANopenLinux.Spec.AutoSaveEmergency
import CANopenLinux.Spec.GatewayShutdown
import CANopenLinux.Spec.MainLoop
import CANopenLinux.Spec.GatewayResponse
import CANopenLinux.Spec.CommReset
import CANopenLinux.Spec.Startup
import CANopenLinux.Spec.Shutdown
