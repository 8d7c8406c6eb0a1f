import LumesSwitch.Lib.Run
import LumesSwitch.Lib.Buf
import LumesSwitch.Lib.Words
import LumesSwitch.Lib.Flags
import LumesSwitch.Lib.Nor
import LumesSwitch.Lib.Table
import LumesSwitch.Lib.Timers
import LumesSwitch.Lib.Ring
import LumesSwitch.Lib.I2c
import LumesSwitch.Lib.Link
import LumesSwitch.Board
import LumesSwitch.Fifo
import LumesSwitch.Flash.FlashUser
import LumesSwitch.Flash.FlashLog
import LumesSwitch.Flash.Wear
import LumesSwitch.Flash.Sectors
import LumesSwitch.Flash.WordLog
import LumesSwitch.Flash.Origin
import LumesSwitch.Energy.Model
import LumesSwitch.Energy.Account
import LumesSwitch.Energy.Monotone
import LumesSwitch.Energy.Cleared
import LumesSwitch.Energy.Answers
import LumesSwitch.Energy.Channels
import LumesSwitch.Energy.Pulses
import LumesSwitch.Energy.Gain
import LumesSwitch.Energy.Picture
import LumesSwitch.Energy.Periodic
import LumesSwitch.Relay.Model
import LumesSwitch.Relay.Core
import LumesSwitch.Relay.Events
import LumesSwitch.Relay.Env
import LumesSwitch.Relay.Momentary
import LumesSwitch.Relay.ZeroCross
import LumesSwitch.Relay.OnTimeLog
import LumesSwitch.Relay.OnTimeCleared
import LumesSwitch.Relay.Quiescence
import LumesSwitch.Relay.OnTime
import LumesSwitch.Relay.StoreDelay
import LumesSwitch.Relay.Mirror
import LumesSwitch.Net.Message
import LumesSwitch.Net.Commands
import LumesSwitch.Net.DefaultNetwork
import LumesSwitch.Scene.Model
import LumesSwitch.Scene.Table
import LumesSwitch.Scene.Dimming
import LumesSwitch.Scene.RoundTrip
import LumesSwitch.Scene.Slots
import LumesSwitch.Scene.Refused
import LumesSwitch.Scene.Parser
import LumesSwitch.Scene.Answer
import LumesSwitch.Scene.Active
import LumesSwitch.Scene.Program
import LumesSwitch.Schedule.Timestamp
import LumesSwitch.Schedule.Model
import LumesSwitch.Schedule.Present
import LumesSwitch.Schedule.PowerCycle
import LumesSwitch.Schedule.Clock
import LumesSwitch.Button.Scan
import LumesSwitch.Button.Trace
import LumesSwitch.Button.Count
import LumesSwitch.Button.Panel
import LumesSwitch.Scene.Report
import LumesSwitch.Button.Lock
import LumesSwitch.Button.Release
import LumesSwitch.Button.Gesture
import LumesSwitch.Button.Arming
import LumesSwitch.Net.Propagation
import LumesSwitch.Net.Receive
import LumesSwitch.Net.Mesh
import LumesSwitch.Net.SameState
import LumesSwitch.Net.Index
import LumesSwitch.Config.Model
import LumesSwitch.Net.AutoLoop
import LumesSwitch.Config.Stored
import LumesSwitch.Config.PowerOn
import LumesSwitch.Config.Survival
import LumesSwitch.Config.ButtonIds
import LumesSwitch.Config.SwitchMode
import LumesSwitch.Config.AutoSend
import LumesSwitch.Fact.Model
import LumesSwitch.Fact.Trigger
import LumesSwitch.Binding.Store
import LumesSwitch.Binding.Address
import LumesSwitch.Reset.FactoryReset
import LumesSwitch.Reset.Calibration
import LumesSwitch.Reset.Meters
import LumesSwitch.Task.CycleFuncs
import LumesSwitch.Task.SystemTime
import LumesSwitch.Periph.SoftI2c
import LumesSwitch.Periph.At24c01
import LumesSwitch.Fact.RfTest
import LumesSwitch.Led.Model
import LumesSwitch.Fact.Show
import LumesSwitch.Led.Queue
import LumesSwitch.Led.Truth
import LumesSwitch.Led.Scene
import LumesSwitch.Energy.Measured
