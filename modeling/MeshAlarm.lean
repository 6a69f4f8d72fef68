import MeshAlarm.Cursor
import MeshAlarm.Demo
import MeshAlarm.Main
import MeshAlarm.Proofs.Emulator.Coherence
import MeshAlarm.Proofs.Emulator.Polling
import MeshAlarm.Proofs.Handler.Runs
import MeshAlarm.Proofs.Handler.Discovery
import MeshAlarm.Proofs.Device.Runs
import MeshAlarm.Proofs.Device.Answers
import MeshAlarm.Proofs.Emulator.Shell
import MeshAlarm.Proofs.Registry.History
import MeshAlarm.Proofs.Registry.Notices
import MeshAlarm.Proofs.Cursor
import MeshAlarm.Proofs.Packet
import MeshAlarm.Proofs.Decoding.Positions
import MeshAlarm.Proofs.Controller.Repeats
import MeshAlarm.Proofs.Decoding.Failures
import MeshAlarm.Proofs.SupportedReport.Canonical
import MeshAlarm.Proofs.Report
import MeshAlarm.Proofs.CommandLine.Run
import MeshAlarm.Proofs.CommandLine.Lines
import MeshAlarm.Proofs.Emulator.Conversation
import MeshAlarm.Proofs.Request
import MeshAlarm.Proofs.Device.Unasked
import MeshAlarm.Proofs.Controller.Routing
import MeshAlarm.Proofs.Emulator.Discovery
import MeshAlarm.Proofs.Bitmap.Negative
import MeshAlarm.Proofs.Packet.Hex
import MeshAlarm.Proofs.Get
import MeshAlarm.Proofs.CommandLine.Decode
import MeshAlarm.Proofs.Cursor.Runs
import MeshAlarm.Proofs.EventType.Name
import MeshAlarm.Proofs.Registry.Targets
import MeshAlarm.Proofs.CommandLine.Request
