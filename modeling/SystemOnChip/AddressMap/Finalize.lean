import SystemOnChip.AddressMap.Basic

/-! Finishing a system: the interconnects are built, the pages of registers get
their addresses, the needs of the processor are checked, and interrupts are
wired and published. -/
namespace SystemOnChip.Soc

def decodedSlaves (soc : Soc) : Verdict (List (String × Decoder)) :=
  soc.bus.slaves.mapM fun (name, _) => do
    let decoder ← soc.bus.decoder name
    pure (name, decoder)

def busInterconnect (soc : Soc) : Verdict (Option BusInterconnect) := do
  let slaves ← soc.decodedSlaves
  let masters := soc.bus.masters.map (·.1)
  if masters.isEmpty || slaves.isEmpty then pure none
  else pure (some { masters, slaves, timeoutCycles := soc.bus.timeout })

/-- Bus errors are timeouts of the interconnect. -/
def busErrorSink (soc : Soc) (interconnect : Option BusInterconnect) : Option String :=
  if interconnect.isSome && soc.bus.timeout.isSome then soc.controller else none

/-- The first component, by name, with a memory of this location. -/
def csrOwner (peripherals : NameMap Peripheral) (location : String) : CsrOwner :=
  let memory? := peripherals.entries.findSome? fun (component, peripheral) =>
    (peripheral.memories.find? fun memory =>
      Csr.locationName component (some memory) == location).map (CsrOwner.memory component)
  memory?.getD (.bank location)

def csrPage (soc : Soc) (base : UInt64) (location : String) (slot : UInt32) : CsrPage where
  origin := base + soc.csr.paging.toUInt64 * slot.toUInt64
  busWord := soc.csr.dataWidth
  owner := csrOwner soc.peripherals location

/-- One page for each location, which needs the bus region of the registers. -/
def csrPages (soc : Soc) : Verdict (List (String × CsrPage)) :=
  let locations := soc.csr.locations.byLocation
  if locations.isEmpty then pure []
  else
    match (soc.bus.regions.get? csrRegionName).bind (·.origin) with
    | some base => pure (locations.map fun (name, slot) => (name, soc.csrPage base name slot))
    | none =>
      .failWith s!"CSR locations declared without a {csrRegionName} bus region\n{soc.bus.text}"
        (.missingRequiredRegion csrRegionName)

/-- Pages are kept by origin; among equal origins the lower location is first. -/
def pagesByOrigin (pages : List (String × CsrPage)) : List (String × CsrPage) :=
  pages.mergeSort fun a b => a.2.origin ≤ b.2.origin

def csrInterconnect (soc : Soc) : Option CsrInterconnect :=
  if soc.csr.masters.isEmpty then none
  else some {
    masters := soc.csr.masters.map (·.1)
    slaves := soc.csr.locations.byLocation.map (·.1) }

/-- The constants of the components that have a location, by location. -/
def csrConstants (soc : Soc) : List (String × Constant) :=
  soc.csr.locations.byLocation.flatMap fun (name, _) =>
    match soc.peripheral? name with
    | some peripheral => peripheral.constants.map fun (constant, value) =>
      (s!"{name}_{constant}", value)
    | none => []

def publish (constants : List (String × Constant)) : Call ConstantTable Unit :=
  constants.forM fun (name, value) => ConstantTable.define name value

def bootRegions : List String := ["rom", "sram"]

def requireBootRegions (soc : Soc) : Verdict Unit :=
  match soc.cpu with
  | none => pure ()
  | some cpu =>
    if cpu.isNone then pure ()
    else bootRegions.forM fun name =>
      if soc.bus.declares name then pure ()
      else .failWith s!"CPU needs {name} region\n{soc.bus.text}" (.missingRequiredRegion name)

/-- The interrupt lines that other components drive: all but those that the
processor uses itself. -/
def externalLines (soc : Soc) : List (String × UInt32) :=
  match soc.cpu with
  | none => []
  | some cpu =>
    if cpu.interruptLines then
      soc.irq.locations.slots.entries.filter fun line => !cpu.interrupts.contains line.1
    else []

/-- A line needs a component of its name with an event source. -/
def requireEventSource (soc : Soc) (name : String) : Verdict Unit :=
  if (soc.peripheral? name).any (·.eventSource) then pure ()
  else (Verdict.fail (.missingEventSource name)).orDump soc.irq.locations.text

def connectLines (soc : Soc) (lines : List (String × UInt32)) : Call ConstantTable Unit :=
  lines.forM fun (name, line) => do
    .ask fun _ => soc.requireEventSource name
    ConstantTable.define s!"{name}_INTERRUPT" (.int line.toUInt64)

def irqWires (lines : List (String × UInt32)) : List IrqWire :=
  (lines.map fun (name, line) => { line, source := name }).mergeSort fun a b => a.line ≤ b.line

/-- The address map of the system, or the first of its needs that is not met. -/
def finalize (soc : Soc) : Verdict AddressMap := do
  .info s!"finalized SoC:\n{soc.bus.text}\n{soc.csr.text}\n{soc.irq.text}"
  let busInterconnect ← soc.busInterconnect
  let csrPages ← soc.csrPages
  let constants ← (publish soc.csrConstants).completed soc.constants
  soc.requireBootRegions
  let constants ← (soc.connectLines soc.externalLines).completed constants
  pure {
    clockFrequency := soc.clockFrequency
    bus := soc.bus
    csr := soc.csr
    csrPages := pagesByOrigin csrPages
    irq := soc.irq
    constants
    busInterconnect
    busErrorSink := soc.busErrorSink busInterconnect
    resetSource := soc.resetSource
    csrInterconnect := soc.csrInterconnect
    irqWires := irqWires soc.externalLines }

end SystemOnChip.Soc
