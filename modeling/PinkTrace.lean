import PinkTrace.Lib.Loop
import PinkTrace.Lib.Span
import PinkTrace.Lib.Overlay
import PinkTrace.Lib.Stream
import PinkTrace.Lib.NameTable
import PinkTrace.Lib.Flags
import PinkTrace.Lib.Schedule
import PinkTrace.Lib.Session
import PinkTrace.Lib.Copies
import PinkTrace.Lib.Assoc
import PinkTrace.Arch
import PinkTrace.Kernel
import PinkTrace.Spec
import PinkTrace.Vm
import PinkTrace.Read
import PinkTrace.Tables.Errno
import PinkTrace.Tables.X86
import PinkTrace.Tables.Arm
import PinkTrace.Tables.PowerPC
import PinkTrace.Name
import PinkTrace.Retval
import PinkTrace.Regset.X86
import PinkTrace.Regset.I386
import PinkTrace.Regset.AArch64
import PinkTrace.Regset.PowerPC
import PinkTrace.Trace
import PinkTrace.Socket
import PinkTrace.Pipe
import PinkTrace.PipeFds
import PinkTrace.PipeSystem
import PinkTrace.VmSession
import PinkTrace.RegsetSession
import PinkTrace.Xlat
import PinkTrace.Event
import PinkTrace.Strace
import PinkTrace.Child
import PinkTrace.OsRelease
import PinkTrace.Proof.Vm.Cursor
import PinkTrace.Proof.Vm.Lread
import PinkTrace.Proof.Vm.LreadNul
import PinkTrace.Proof.Vm.Lwrite
import PinkTrace.Proof.Vm.CreadNul
import PinkTrace.Proof.Vm.Requests
import PinkTrace.Proof.Vm.Progress
import PinkTrace.Proof.Vm.Paged
import PinkTrace.Proof.Vm.Exact
import PinkTrace.Proof.Vm.WordStrings
import PinkTrace.Proof.Vm.Entry
import PinkTrace.Proof.Vm.RoundTrip
import PinkTrace.Proof.Vm.Frame
import PinkTrace.Proof.Vm.Partial
import PinkTrace.Proof.Vm.Strings
import PinkTrace.Proof.Vm.Compat
import PinkTrace.Proof.Vm.Returns
import PinkTrace.Proof.Vm.Session
import PinkTrace.Proof.Shuffle
import PinkTrace.Proof.Name
import PinkTrace.Proof.NameX32
import PinkTrace.Proof.NamePowerPC
import PinkTrace.Proof.Regset.Fill
import PinkTrace.Proof.Regset.Readings
import PinkTrace.Proof.Regset.Accessors
import PinkTrace.Proof.Retval
import PinkTrace.Proof.Regset.PowerPC
import PinkTrace.Proof.Regset.AArch64
import PinkTrace.Proof.Regset.Session
import PinkTrace.Proof.Regset.SessionAArch64
import PinkTrace.Proof.Regset.SessionPlain
import PinkTrace.Proof.Trace
import PinkTrace.Proof.Socket
import PinkTrace.Proof.SocketAddress
import PinkTrace.Proof.StringArray
import PinkTrace.Proof.Pipe
import PinkTrace.Proof.PipeInterrupt
import PinkTrace.Proof.PipeFds
import PinkTrace.Proof.PipeSystem
import PinkTrace.Proof.PipeWriters
import PinkTrace.Proof.Xlat
import PinkTrace.Proof.Event
import PinkTrace.Proof.OsRelease
import PinkTrace.Proof.Strace.Phase
import PinkTrace.Proof.Strace.Decode
import PinkTrace.Proof.Strace.Execve
import PinkTrace.Proof.Strace.Output
import PinkTrace.Proof.Strace.Faults
