import GLogiK.Base
import GLogiK.Lib.Brackets
import GLogiK.Macro.Basic
import GLogiK.Macro.Balanced
import GLogiK.Macro.Matching
import GLogiK.Macro.Check
import GLogiK.Macro.Scan
import GLogiK.Keyboard.Device
import GLogiK.Keyboard.Changes
import GLogiK.Keyboard.Replay
import GLogiK.Keyboard.Recording
import GLogiK.Keyboard.Session
import GLogiK.Keyboard.MxKeys
import GLogiK.Keyboard.Limits
import GLogiK.Lib.Run
import GLogiK.Lib.Actions
import GLogiK.Daemon.KeyboardDriver
import GLogiK.Daemon.Client
import GLogiK.Daemon.ClientsManager
import GLogiK.Daemon.Active
import GLogiK.Daemon.View
import GLogiK.Daemon.Refinement
import GLogiK.Daemon.Operations
import GLogiK.Daemon.Invariant
import GLogiK.Daemon.Departures
import GLogiK.Daemon.Parameters
import GLogiK.Daemon.LCDPlugins
import GLogiK.Daemon.LCDPluginsProperties
import GLogiK.Daemon.Registration
import GLogiK.Daemon.StatusSignals
import GLogiK.Daemon.ConnectedClients
import GLogiK.Service.DevicesHandler
import GLogiK.Service.System
import GLogiK.Service.Statuses
import GLogiK.Daemon.BankSwitches
import GLogiK.Service.Banks
import GLogiK.Daemon.Containers
import GLogiK.Daemon.Drivers
import GLogiK.Daemon.Unplugged
import GLogiK.Daemon.HardStops
import GLogiK.Daemon.WellFiled
import GLogiK.Daemon.Suspend
import GLogiK.Lib.Owes
import GLogiK.Daemon.Libusb
import GLogiK.Daemon.LibusbRelease
import GLogiK.Service.FSNotify
import GLogiK.Service.ConfigurationFiles
import GLogiK.Service.GKeysBanks
import GLogiK.Service.GKeysEventManager
import GLogiK.Service.FileSystem
import GLogiK.Service.Devices
import GLogiK.Service.DeviceMoves
import GLogiK.Service.DevicesRefinement
import GLogiK.Service.ConfigurationNames
import GLogiK.Lib.RefCount
import GLogiK.Service.WatchCounts
import GLogiK.Service.Notifications
import GLogiK.Service.FailedLoads
import GLogiK.DBus.ArgBase
import GLogiK.DBus.ArgTypes
import GLogiK.DBus.Traversal
import GLogiK.DBus.Containers
import GLogiK.DBus.ThreadArguments
import GLogiK.DBus.Reading
import GLogiK.DBus.RoundTrip
import GLogiK.DBus.StringArrays
import GLogiK.DBus.GKDBusEvent
import GLogiK.Lib.Nesting
import GLogiK.DBus.GKDBusEvents
import GLogiK.DBus.ObjectPaths
import GLogiK.DBus.Introspection
import GLogiK.DBus.Replies
import GLogiK.DBus.Dispatch
import GLogiK.Lib.Listing
import GLogiK.DBus.RootNode
import GLogiK.GUI.MainWindow
import GLogiK.GUI.LostUpdates
import GLogiK.GUI.DevicesMap
import GLogiK.Daemon.LibusbSearch
import GLogiK.LCD.PBMFont
import GLogiK.LCD.Glyphs
import GLogiK.LCD.LCDPlugin
import GLogiK.LCD.CenteredStrings
import GLogiK.LCD.ProgressBar
import GLogiK.LCD.Coretemp
import GLogiK.LCD.VerticalLines
import GLogiK.LCD.CoretempID
import GLogiK.LCD.PluginTurns
import GLogiK.LCD.Locks
import GLogiK.LCD.Refusals
import GLogiK.LCD.FrameSchedule
import GLogiK.Lib.InputStream
import GLogiK.LCD.PBMFile
import GLogiK.LCD.PBMHeaders
import GLogiK.Service.VirtualKeyboard
import GLogiK.Service.StoredEvents
import GLogiK.Service.Playback
import GLogiK.DBus.DeviceSignals
import GLogiK.Service.TypedMacros
import GLogiK.Daemon.DriverThreads
import GLogiK.DBus.MessageSlots
import GLogiK.Daemon.SleepInhibition
import GLogiK.Lib.Throttle
import GLogiK.Launcher.DBusHandler
import GLogiK.Service.RegisterStatus
import GLogiK.DBus.RemoteCalls
import GLogiK.LCD.DisplayedText
import GLogiK.Lib.Handles
import GLogiK.Daemon.Udev
import GLogiK.Lib.Mailbox
import GLogiK.Keyboard.LCDKeys
import GLogiK.GUI.Tabs
import GLogiK.LCD.MonitorFrames
import GLogiK.LCD.TemperatureFrames
