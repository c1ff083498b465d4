import E203.Lib.Machine
import E203.Lib.BitVecArith
import E203.Lib.NonRestoring
import E203.Isa.RV32MA
import E203.Muldiv.Unit
import E203.Muldiv.DivideStep
import E203.Muldiv.Divide
import E203.Muldiv.Multiply
import E203.Rtl.Core
import E203.Branch.Compare
import E203.Branch.Resolve
import E203.Rtl.IfuIft2icb
import E203.Fetch.Lane
import E203.Fetch.Adapter
import E203.Fetch.AdapterData
import E203.Fetch.AdapterRun
import E203.Fetch.Stage
import E203.Fetch.Flush
import E203.Rtl.Ifu
import E203.Fetch.UnitRun
import E203.Fetch.Fault
import E203.Fetch.Precise
import E203.Fetch.Stream
import E203.Fetch.CoreRun
import E203.Branch.Predict
import E203.Exec.Steady
import E203.Exec.Events
import E203.Exec.Halt
import E203.Exec.Handoff
import E203.Exec.Refused
import E203.Exec.Trap
import E203.Exec.Killed
import E203.Exec.InOrder
import E203.Fetch.Jalr
import E203.Fetch.Path
import E203.Decode.Legal
import E203.Decode.Muldiv
import E203.Exec.Fuse
import E203.Plic.Claim
import E203.Plic.Tree
import E203.Cdc.ExactlyOnce
import E203.Csr.Access
import E203.Csr.Instret
import E203.Csr.TrapValue
import E203.Rtl.CoreLsu
import E203.Lsu.Compute
import E203.Lsu.Ctrl
import E203.Exec.AtomicOp
import E203.Lsu.AmoRun
import E203.Lsu.Fencei
import E203.Lsu.Reserve
import E203.Lsu.Routing
import E203.Integer.Execute
import E203.Tcm.Linearizable
import E203.Tcm.DataPath
import E203.Tcm.DataMem
import E203.Tcm.Holdup
import E203.Fetch.ItcmPort
import E203.General.Bypbuf
import E203.General.IcbArbt
import E203.General.IcbSplt
import E203.Biu.Routing
import E203.Rtl.DebugModule
import E203.Debug.Module
import E203.Cdc.Liveness
import E203.Rtl.JtagDtm
import E203.Debug.Requests
import E203.Debug.Transport
import E203.Isa.RV32I
import E203.Rtl.DataMem
import E203.Lsu.Access
import E203.Cdc.ClockMux
import E203.General.Icb2apb
import E203.Muldiv.Sequencer
import E203.Exec.Window
import E203.General.IcbBuffer
import E203.General.Icb1to8Bus
import E203.General.Icb2axi
import E203.General.N2w
import E203.Arch.Next
import E203.Arch.Pc
import E203.Arch.Coherent
import E203.Lib.Follow
import E203.Arch.Regs
import E203.Arch.Muldiv
import E203.Arch.Access
import E203.Arch.Refine
import E203.Lib.Serial
import E203.Rtl.Uart
import E203.Uart.Transmit
import E203.Uart.Receive
import E203.Uart.Link
import E203.Uart.Queue
import E203.Uart.Stream
import E203.Fetch.Program
import E203.Isa.Program
import E203.Arch.Program
