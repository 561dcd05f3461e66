import SystemOnChip.Bus.Config
import SystemOnChip.Constant

/-! The components of a system, as far as its address map needs to know them. -/
namespace SystemOnChip

inductive UartKind where
  | stub
  | stream
  | bridge
  | crossover
  | jtagAtlantic
  | jtagUart
  | serial (pads : String)
deriving DecidableEq

/-- Whether a separate physical layer carries the characters. -/
def UartKind.hasPhy : UartKind → Bool
  | jtagAtlantic | jtagUart | serial _ => true
  | stub | stream | bridge | crossover => false

inductive PeripheralKind where
  | controller
  | cpu
  | ram
  | rom
  | csrBridge
  | timer
  | identifier (text : String)
  | uart (kind : UartKind) (baudrate : UInt32)
  | uartPhy
  | sdram
  | other
deriving DecidableEq

/-- An event source can be wired to an interrupt line. The constants are
published with the component's registers, and each of the memories has a
location of its own among them. -/
structure Peripheral where
  kind : PeripheralKind
  eventSource : Bool := false
  constants : List (String × Constant) := []
  memories : List String := []
deriving DecidableEq

/-- A processor: the bus masters it brings, the interrupt lines it uses itself,
the uncached windows it expects as pairs of origin and size, and whether other
components can interrupt it. -/
structure Cpu where
  name : String := "none"
  variant : String := "standard"
  buses : List Bus.Interface := []
  interrupts : NameMap UInt32 := .empty
  windows : List (UInt64 × UInt64) := []
  resetAddress : Option UInt64 := none
  interruptLines : Bool := false
deriving DecidableEq

/-- The name `none` stands for a system without a processor. -/
def Cpu.isNone (cpu : Cpu) : Bool := cpu.name == "none"

/-- The variant without its extensions, which follow plus signs. -/
def Cpu.baseVariant (cpu : Cpu) : String := String.ofList (cpu.variant.toList.takeWhile (· != '+'))

/-- The address and data bits of a memory, and the width of an access through its
controller. -/
structure SdramGeometry where
  bankBits : UInt32
  rowBits : UInt32
  columnBits : UInt32
  dataBits : UInt32
  accessWidth : UInt32
deriving DecidableEq

/-- The capacity in bytes, if that of the words and that in bits fit 64 bits. -/
def SdramGeometry.size? (geometry : SdramGeometry) : Option UInt64 :=
  let addressBits := geometry.bankBits.toNat + geometry.rowBits.toNat + geometry.columnBits.toNat
  if addressBits < 64 then
    let bits := (1 <<< addressBits) * geometry.dataBits.toNat
    if bits < UInt64.size then some (UInt64.ofNat (bits / 8)) else none
  else none

def SdramGeometry.size (geometry : SdramGeometry) : Verdict UInt64 :=
  match geometry.size? with
  | some size => pure size
  | none => .fail (.unsupported "sdram.geometry" <|
      s!"{geometry.bankBits} bank, {geometry.rowBits} row, {geometry.columnBits} column bits " ++
        s!"of {geometry.dataBits} data bits")

/-- The size under which a cache is recorded: none, or a power of two, rounded
down from the given size or from two accesses. -/
def SdramGeometry.cacheSize (geometry : SdramGeometry) (size : UInt64) : UInt64 :=
  if size = 0 then 0
  else Word.previousPowerOfTwo (max size (2 * (geometry.accessWidth.toUInt64 / 8)))

end SystemOnChip
