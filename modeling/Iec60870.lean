import Iec60870.Cs104.Demotion
import Iec60870.Cs104.Transfer
import Iec60870.Cs104.StopConfirm
import Iec60870.Cs104.Supervision
import Iec60870.Cs104.Agreement
import Iec60870.Cs104.StopHandshake
import Iec60870.Cs104.Switchover
import Iec60870.Cs104.Replay
import Iec60870.Asdu.RoundTrip
import Iec60870.Cs104.Framing
import Iec60870.Cs104.Stranded
import Iec60870.Cs104.Backlog
import Iec60870.Cs101.Line
import Iec60870.Cs101.Answers
import Iec60870.Cs101.Restart
import Iec60870.Cs101.Balanced
import Iec60870.Cs101.Framing
import Iec60870.Asdu.Sequence
import Iec60870.Asdu.ControlTrip
import Iec60870.Asdu.Consumption
import Iec60870.Cs104.Dispatch
import Iec60870.FileTransfer.Isolation
import Iec60870.FileTransfer.Panics
import Iec60870.FileTransfer.Directory
import Iec60870.Asdu.Calendar
import Iec60870.Lib.SummerTime
import Iec60870.Asdu.Zones
import Iec60870.Asdu.ZoneTrip
import Iec60870.Asdu.HourTag
import Iec60870.Cs103.DayTag
import Iec60870.Cs101.Ring
import Iec60870.Cs101.Stations
import Iec60870.FileTransfer.Ends
import Iec60870.FileTransfer.Script
import Iec60870.FileTransfer.Delivery
import Iec60870.Cs101.Holding
import Iec60870.Lib.RoundRobin
import Iec60870.Cs101.Turns
import Iec60870.Cs103.Holding
import Iec60870.Cs103.Turns
import Iec60870.Cs103.Asdu
import Iec60870.Cs103.Handler
import Iec60870.Cs101.Reports
import Iec60870.Cs103.RunLink
import Iec60870.Cs103.StartUp
import Iec60870.Cs103.EndToEnd
