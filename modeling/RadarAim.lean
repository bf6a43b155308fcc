import RadarAim.Lib.Prog
import RadarAim.Lib.Triple
import RadarAim.Lib.Simulation
import RadarAim.Lib.Bytes
import RadarAim.Lib.Counted
import RadarAim.Lib.CappedMap
import RadarAim.Lib.Cursor
import RadarAim.Lib.Ieee
import RadarAim.Lib.Double
import RadarAim.Lib.Seqlock
import RadarAim.Lib.Stdio
import RadarAim.Lib.Utf8
import RadarAim.Lib.Scanf
import RadarAim.Lib.JsonText
import RadarAim.Lib.CLayout
import RadarAim.Lib.Path
import RadarAim.Lib.Canvas
import RadarAim.Lib.Pool
import RadarAim.Lib.Struct
import RadarAim.Lib.Lines
import RadarAim.Lib.Nearest
import RadarAim.RemoteMemory
import RadarAim.RemoteBuffer
import RadarAim.Reflection.Context
import RadarAim.Reflection.Names
import RadarAim.Reflection.Lists
import RadarAim.Reflection.Objects
import RadarAim.Reflection.Classes
import RadarAim.Reflection.Instances
import RadarAim.Scan.Pattern
import RadarAim.Scan.Segment
import RadarAim.Aslr
import RadarAim.Json
import RadarAim.Sdk
import RadarAim.Radar.Snapshot
import RadarAim.Radar.Data
import RadarAim.Radar.Labels
import RadarAim.Radar.Reader
import RadarAim.Radar.Tick
import RadarAim.Radar.Arrays
import RadarAim.Radar.MetaCache
import RadarAim.Radar.Layout
import RadarAim.Radar.Joint
import RadarAim.Overlay.SharedMemory
import RadarAim.Overlay.Touch
import RadarAim.Overlay.Aim
import RadarAim.Overlay.Tick
import RadarAim.Overlay.Skeleton
import RadarAim.Overlay.Window
import RadarAim.Overlay.DrawRect
import RadarAim.Overlay.Features
import RadarAim.Overlay.Picture
import RadarAim.Overlay.Controls
import RadarAim.Daemon
import RadarAim.Config
import RadarAim.App.ReadTail
import RadarAim.Tools.CaptureProof
import RadarAim.Tools.BuildLocal
import RadarAim.Tools.RemoteSh
import RadarAim.Theorems.Snapshot
import RadarAim.Theorems.StringBuffer
import RadarAim.Theorems.Names
import RadarAim.Theorems.NameTable
import RadarAim.Theorems.FailedLookup
import RadarAim.Theorems.Contexts
import RadarAim.Theorems.Lists
import RadarAim.Theorems.Records
import RadarAim.Theorems.Objects
import RadarAim.Theorems.Instances
import RadarAim.Theorems.Metaclass
import RadarAim.Theorems.PathNames
import RadarAim.Theorems.Children
import RadarAim.Theorems.Dump
import RadarAim.Theorems.Strings
import RadarAim.Theorems.Writers
import RadarAim.Theorems.Encoding
import RadarAim.Theorems.DyingTarget
import RadarAim.Theorems.Walkers
import RadarAim.Theorems.Schema
import RadarAim.Theorems.PatternScan
import RadarAim.Theorems.Segments
import RadarAim.Theorems.LoadCommands
import RadarAim.Theorems.Aslr
import RadarAim.Theorems.Reader
import RadarAim.Theorems.Level
import RadarAim.Theorems.Classes
import RadarAim.Theorems.Labels
import RadarAim.Theorems.Teammates
import RadarAim.Theorems.Worlds
import RadarAim.Theorems.Metadata
import RadarAim.Theorems.Frames
import RadarAim.Theorems.Arrays
import RadarAim.Theorems.MetaCaches
import RadarAim.Theorems.Loops
import RadarAim.Theorems.PlayerList
import RadarAim.Theorems.Layout
import RadarAim.Theorems.Joint
import RadarAim.Theorems.Touch
import RadarAim.Theorems.Targets
import RadarAim.Theorems.Sweeps
import RadarAim.Theorems.Freshness
import RadarAim.Theorems.Lifts
import RadarAim.Theorems.Reconnect
import RadarAim.Theorems.StopFlag
import RadarAim.Theorems.Skeleton
import RadarAim.Theorems.Picture
import RadarAim.Theorems.Texts
import RadarAim.Theorems.Windows
import RadarAim.Theorems.Controls
import RadarAim.Theorems.Placement
import RadarAim.Theorems.Pools
import RadarAim.Theorems.RoundTrip
import RadarAim.Theorems.Config
import RadarAim.Theorems.MachPatch
import RadarAim.Theorems.LogTail
import RadarAim.Theorems.RemoteScript
import RadarAim.Daemon.Machine
import RadarAim.Theorems.Lifecycle
import RadarAim.Theorems.Processes
