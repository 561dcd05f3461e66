import SystemOnChip.Soc.Basic

/-! Components of a system. Adding one declares all that belongs to it: regions,
masters, slaves, locations and constants. What was declared before a failure stays. -/
namespace SystemOnChip.Soc

/-- Fails if a component of this name is there. -/
def requireNew (name : String) : Call Soc Unit := .ask fun soc =>
  if soc.peripherals.contains name then
    .failWith s!"{name} component already declared" (.duplicateComponent name)
  else pure ()

def install (name : String) (peripheral : Peripheral) : Call Soc Unit :=
  .update fun soc => { soc with peripherals := soc.peripherals.insert name peripheral }

/-- Which table of locations is meant. -/
inductive Space where
  | csr
  | irq
deriving DecidableEq

def declareRegion (name : String) (region : Region) : Call Soc Region :=
  onBus (Bus.declareRegion name region)

def attachMaster (name : Option String) (interface : Bus.Interface) : Call Soc String :=
  onBus (Bus.attachMaster name interface)

def attachSlave (name : Option String) (interface : Bus.Interface) (region : Option Region) :
    Call Soc String :=
  onBus (Bus.attachSlave name interface region)

def assign (space : Space) (name : String) (wanted : Option UInt32) (reuse : Bool) :
    Call Soc UInt32 :=
  match space with
  | .csr => onCsr (Csr.assign name wanted reuse)
  | .irq => onIrq (Irq.assign name wanted reuse)

def define (name : String) (value : Constant) : Call Soc Unit :=
  onConstants (ConstantTable.define name value)

def configure (name : String) (value : Constant) : Call Soc Unit :=
  onConstants (ConstantTable.configure name value)

/-- Registers a component under a new name. -/
def addPeripheral (name : String) (peripheral : Peripheral) : Call Soc Unit := do
  requireNew name
  install name peripheral

/-- The location of a component that may have been reserved for it. -/
def claim (space : Space) (name : String) : Call Soc Unit := do
  discard <| assign space name none true

/-- Attaches a slave of the bus's own width with a region of its name. -/
def attachRegion (name : String) (region : Region) : Call Soc Unit := do
  let soc ← .current
  discard <| attachSlave (some name) ⟨soc.bus.dataWidth⟩ (some region)

/-- The system controller: it resets the processor and counts bus errors. -/
def addController (name : String) : Call Soc Unit := do
  addPeripheral name { kind := .controller }
  claim .csr name
  .update fun soc => { soc with controller := some name }

/-- A memory that can only be read is a rom. -/
def addRam (name : String) (origin size : UInt64) (mode : AccessMode) : Call Soc Unit := do
  requireNew name
  let region := { Region.fixed origin size with mode }
  attachRegion name region
  install name { kind := if mode = .read then .rom else .ram }
  .info s!"RAM {name} added {region.text}"

def addRom (name : String) (origin size : UInt64) : Call Soc Unit :=
  addRam name origin size .read

/-- The window through which registers are reached: it is uncached, and holds
every page that can have a location. -/
def csrWindow (csr : Csr) (origin : UInt64) : Region :=
  { Region.fixed origin (1 <<< (csr.addressWidth + 2).toUInt64) with cached := false }

/-- The bridge from the system bus to the registers. -/
def addCsrBridge (origin : UInt64) : Call Soc Unit := do
  requireNew "csr_bridge"
  let soc ← .current
  attachRegion csrRegionName (csrWindow soc.csr origin)
  discard <| onCsr (Csr.attachMaster (some "bridge") ⟨soc.csr.dataWidth⟩)
  install "csr_bridge" { kind := .csrBridge }
  configure "CSR_DATA_WIDTH" (.int soc.csr.dataWidth.toUInt64)
  configure "CSR_ALIGNMENT" (.int soc.csr.alignment.toUInt64)

/-- What only a real processor declares: its bus masters, its registers, the
interrupt lines it uses itself and its reset address. -/
def addCore (cpu : Cpu) : Call Soc Unit := do
  cpu.buses.zipIdx.forM fun (interface, index) => do
    discard <| attachMaster (some s!"cpu_bus{index}") interface
  claim .csr "cpu"
  cpu.interrupts.entries.forM fun (name, line) => do
    discard <| assign .irq name (some line) false
  .update fun soc => { soc with resetSource := soc.controller <|> soc.resetSource }
  if let some address := cpu.resetAddress then
    configure "CPU_RESET_ADDR" (.int address)

/-- What stands for the processor among the components: its windows, its type
and its variant. -/
def enterCpu (cpu : Cpu) : Call Soc Unit := do
  cpu.windows.zipIdx.forM fun ((origin, size), index) => do
    discard <| declareRegion s!"io{index}" (Region.window origin size)
  configure "CPU_TYPE" (.str cpu.name)
  configure "CPU_VARIANT" (.str cpu.baseVariant)
  install "cpu" { kind := .cpu }
  .update fun soc => { soc with cpu := some cpu }

def addCpu (cpu : Cpu) : Call Soc Unit := do
  requireNew "cpu"
  if !cpu.isNone then addCore cpu
  enterCpu cpu

def addTimer (name : String) : Call Soc Unit := do
  addPeripheral name { kind := .timer, eventSource := true }
  claim .csr name
  claim .irq name

/-- A text that software can read, in a memory of its own. -/
def addIdentifier (name text : String) (buildTime : Option String) : Call Soc Unit := do
  let text := match buildTime with
    | some buildTime => s!"{text} {buildTime}"
    | none => text
  addPeripheral name { kind := .identifier text, memories := ["mem"] }
  claim .csr s!"{name}_mem"

/-- What a link to the outside brings besides itself: the physical layer of its
characters, and a master of 32 bits if it bridges to the bus. -/
def addUartParts (kind : UartKind) : Call Soc Unit := do
  if kind.hasPhy then addPeripheral "uart_phy" { kind := .uartPhy }
  if kind = .bridge then discard <| attachMaster (some "uart_bridge") ⟨32⟩

def addUart (kind : UartKind) (baudrate : UInt32) : Call Soc Unit := do
  requireNew "uart"
  addUartParts kind
  install "uart" { kind := .uart kind baudrate, eventSource := true }
  claim .csr "uart_phy"
  claim .csr "uart"
  claim .irq "uart"

/-- The main memory: all of the device, or as much of it as `size` allows. -/
def addSdram (name : String) (geometry : SdramGeometry) (origin : UInt64) (size : Option UInt64)
    (cacheSize : UInt64) : Call Soc Unit := do
  requireNew name
  let deviceSize ← .ask fun _ => geometry.size
  discard <| assign .csr name none false
  attachRegion "main_ram" (Region.fixed origin (min deviceSize (size.getD deviceSize)))
  configure "L2_SIZE" (.int (geometry.cacheSize cacheSize))
  install name { kind := .sdram }

end SystemOnChip.Soc
