import SystemOnChip.Soc.Declaration

/-! Components as a description lists them, and the declarations that they stand
for. -/
namespace SystemOnChip

/-- Only registers, interrupt lines and constants of a generic component are up to
its description. -/
inductive Component where
  | controller (name : String)
  | cpu (cpu : Cpu)
  | ram (name : String) (origin size : UInt64) (mode : AccessMode)
  | rom (name : String) (origin size : UInt64)
  | csrBridge (origin : UInt64)
  | timer (name : String)
  | identifier (name text : String) (buildTime : Option String)
  | uart (kind : UartKind) (baudrate : UInt32)
  | sdram (name : String) (geometry : SdramGeometry) (origin : UInt64) (size : Option UInt64)
      (cacheSize : UInt64)
  | peripheral (name : String) (eventSource csr irq : Bool) (constants : NameMap UInt64)
  | region (name : String) (region : Region)
  | master (name : Option String) (interface : Bus.Interface)
  | slave (name : Option String) (interface : Bus.Interface) (region : Option Region)
  | location (space : Soc.Space) (name : String) (wanted : Option UInt32)
  | constant (name : String) (value : UInt64)
deriving DecidableEq

namespace Component

/-- What a generic component registers of itself. -/
def generic (eventSource : Bool) (constants : NameMap UInt64) : Peripheral where
  kind := .other
  eventSource
  constants := constants.entries.map (Prod.map id .int)

/-- The locations of a generic component may have been reserved; one that is a
component by itself must be new. -/
def declarations : Component → List Soc.Declaration
  | controller name => [.controller name]
  | cpu core => [.cpu core]
  | ram name origin size mode => [.ram name origin size mode]
  | rom name origin size => [.rom name origin size]
  | csrBridge origin => [.csrBridge origin]
  | timer name => [.timer name]
  | identifier name text buildTime => [.identifier name text buildTime]
  | uart kind baudrate => [.uart kind baudrate]
  | sdram name geometry origin size cacheSize => [.sdram name geometry origin size cacheSize]
  | peripheral name eventSource csr irq constants =>
    [.peripheral name (generic eventSource constants)] ++
      (if csr then [.location .csr name none true] else []) ++
      (if irq then [.location .irq name none true] else [])
  | region name stored => [.region name stored]
  | master name interface => [.master name interface]
  | slave name interface window => [.slave name interface window]
  | location space name wanted => [.location space name wanted false]
  | constant name value => [.constant name (.int value)]

end Component

end SystemOnChip
