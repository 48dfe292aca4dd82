import Ntvdmex.Dos.Proofs.Xms.Pool
import Ntvdmex.Dos.Proofs.Xms.Move
import Ntvdmex.Dos.Proofs.Loader
import Ntvdmex.Dos.Proofs.Env
import Ntvdmex.Dos.Proofs.Clock
import Ntvdmex.Vdd.Proofs.BiosTick.Watch
import Ntvdmex.Vdd.Proofs.Fdc.Exact
import Ntvdmex.Host.Proofs.Pm32.Access
import Ntvdmex.Wow.Proofs.Msg.Queue
import Ntvdmex.Wow.Proofs.Call
import Ntvdmex.Dos.Proofs.Handles.Exec
import Ntvdmex.Vdd.Proofs.Input.Promises
import Ntvdmex.Dos.Proofs.Mcb.FirstFit
import Ntvdmex.Dos.Proofs.Mcb.Termination
import Ntvdmex.Dos.Proofs.Alias.Paths
import Ntvdmex.Vdd.Proofs.OplSynth.Compatible
import Ntvdmex.Wow.Proofs.Gdi.Tokens
import Ntvdmex.Wow.Proofs.Enum
import Ntvdmex.Host.Proofs.Patch.Undone
import Ntvdmex.Dos.Proofs.Ems.PageMap
import Ntvdmex.Dos.Proofs.FatImg.Content
import Ntvdmex.Dos.Proofs.FatImg.Resolve
import Ntvdmex.Dos.Proofs.Lfn.ShortName
import Ntvdmex.Dos.Proofs.Lfn.FileTime
import Ntvdmex.Host.Proofs.V86.StackInstructions
import Ntvdmex.Vdd.Proofs.Pic.Poll
import Ntvdmex.Vdd.Proofs.Pit.Latched
import Ntvdmex.Vdd.Proofs.Pit.ByteOrder
import Ntvdmex.Host.Proofs.Arithmetic.Conditions
import Ntvdmex.Host.Proofs.Shifts.Units
import Ntvdmex.Host.Proofs.Strings.Agree
import Ntvdmex.Host.Proofs.X86Len.Safe
import Ntvdmex.Host.Proofs.Segments.Ladder
import Ntvdmex.Vdd.Proofs.Pit.Gate
import Ntvdmex.Vdd.Proofs.Dma.Service
import Ntvdmex.Vdd.Proofs.FdcPorts.Seeks
import Ntvdmex.Vdd.Proofs.Cmos.Interrupts
import Ntvdmex.Vdd.Proofs.Cmos.Alarm
import Ntvdmex.Vdd.Proofs.Comm.Receive
import Ntvdmex.Wow.Proofs.Ne.Relocations
import Ntvdmex.Host.Proofs.CpuSpeed
import Ntvdmex.Vdd.Proofs.Input.Packets
import Ntvdmex.Vdd.Proofs.SoundBlaster
import Ntvdmex.Vdd.Proofs.BiosKeyRing
import Ntvdmex.Dos.Proofs.Disk
import Ntvdmex.Dos.Proofs.ExtMem
import Ntvdmex.Vdd.Proofs.Mpu
import Ntvdmex.Host.Proofs.CaptureScale
import Ntvdmex.Vdd.Proofs.PresentScale.Effect
