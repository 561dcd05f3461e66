import SystemOnChip.Soc.Components

/-! The declarations that a system can be composed from, as data. -/
namespace SystemOnChip.Soc

inductive Declaration where
  | region (name : String) (region : Region)
  | master (name : Option String) (interface : Bus.Interface)
  | slave (name : Option String) (interface : Bus.Interface) (region : Option Region)
  | location (space : Space) (name : String) (wanted : Option UInt32) (reuse : Bool)
  | constant (name : String) (value : Constant)
  | setting (name : String) (value : Constant)
  | peripheral (name : String) (peripheral : Peripheral)
  | controller (name : String)
  | ram (name : String) (origin size : UInt64) (mode : AccessMode)
  | rom (name : String) (origin size : UInt64)
  | csrBridge (origin : UInt64)
  | cpu (cpu : Cpu)
  | timer (name : String)
  | identifier (name text : String) (buildTime : Option String)
  | uart (kind : UartKind) (baudrate : UInt32)
  | sdram (name : String) (geometry : SdramGeometry) (origin : UInt64) (size : Option UInt64)
      (cacheSize : UInt64)
deriving DecidableEq

/-- What a declaration answers: the region as stored, the name or the location
that was given, or nothing. -/
inductive Reply where
  | region (region : Region)
  | name (name : String)
  | location (slot : UInt32)
  | done
deriving DecidableEq

namespace Declaration

def perform : Declaration → Call Soc Reply
  | region name stored => .region <$> declareRegion name stored
  | master name interface => .name <$> attachMaster name interface
  | slave name interface window => .name <$> attachSlave name interface window
  | location space name wanted reuse => .location <$> assign space name wanted reuse
  | constant name value => (fun _ => .done) <$> define name value
  | setting name value => (fun _ => .done) <$> configure name value
  | peripheral name component => (fun _ => .done) <$> addPeripheral name component
  | controller name => (fun _ => .done) <$> addController name
  | ram name origin size mode => (fun _ => .done) <$> addRam name origin size mode
  | rom name origin size => (fun _ => .done) <$> addRom name origin size
  | csrBridge origin => (fun _ => .done) <$> addCsrBridge origin
  | cpu core => (fun _ => .done) <$> addCpu core
  | timer name => (fun _ => .done) <$> addTimer name
  | identifier name text buildTime => (fun _ => .done) <$> addIdentifier name text buildTime
  | uart kind baudrate => (fun _ => .done) <$> addUart kind baudrate
  | sdram name geometry origin size cacheSize =>
    (fun _ => .done) <$> addSdram name geometry origin size cacheSize

end Declaration

end SystemOnChip.Soc
