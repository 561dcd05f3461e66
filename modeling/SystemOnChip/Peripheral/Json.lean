import SystemOnChip.Bus.Json
import SystemOnChip.Constant.Json
import SystemOnChip.Peripheral

/-! Components as JSON. -/
namespace SystemOnChip

namespace UartKind

def toJson : UartKind → Json
  | stub => .str "stub"
  | stream => .str "stream"
  | bridge => .str "bridge"
  | crossover => .str "crossover"
  | jtagAtlantic => .str "jtag_atlantic"
  | jtagUart => .str "jtag_uart"
  | serial pads => .obj [("serial", .str pads)]

/-- The kinds that carry nothing. -/
def ofName? : String → Option UartKind
  | "stub" => some stub
  | "stream" => some stream
  | "bridge" => some bridge
  | "crossover" => some crossover
  | "jtag_atlantic" => some jtagAtlantic
  | "jtag_uart" => some jtagUart
  | _ => none

def ofJson (place : Json.Place) : Json → Decoded UartKind
  | .obj [("serial", pads)] => serial <$> pads.text
  | json => Json.choice place ofName? json

end UartKind

namespace Cpu

def toJson (cpu : Cpu) : Json := .obj [
  ("name", .str cpu.name),
  ("variant", .str cpu.variant),
  ("buses", Json.ofList Bus.Interface.toJson cpu.buses),
  ("interrupts", Json.ofNameMap Json.ofWord32 cpu.interrupts),
  ("io_regions", Json.ofList (fun (origin, size) => .arr [.num origin, .num size]) cpu.windows),
  ("reset_address", Json.ofOption .num cpu.resetAddress),
  ("interrupt_lines", .bool cpu.interruptLines)]

def record : Record Cpu :=
  let absent : Cpu := {}
  Cpu.mk <$> .withDefault "name" Json.text absent.name
    <*> .withDefault "variant" Json.text absent.variant
    <*> .withDefault "buses" (Json.items Bus.Interface.ofJson) absent.buses
    <*> .withDefault "interrupts" (Json.nameMap Json.word32) absent.interrupts
    <*> .withDefault "io_regions" (Json.items (Json.pair Json.word64 Json.word64)) absent.windows
    <*> .withDefault "reset_address" (Json.optional Json.word64) absent.resetAddress
    <*> .withDefault "interrupt_lines" Json.truth absent.interruptLines

def ofJson : Json → Decoded Cpu := record.decode .lenient

end Cpu

namespace SdramGeometry

def toJson (geometry : SdramGeometry) : Json := .obj [
  ("bankbits", Json.ofWord32 geometry.bankBits),
  ("rowbits", Json.ofWord32 geometry.rowBits),
  ("colbits", Json.ofWord32 geometry.columnBits),
  ("databits", Json.ofWord32 geometry.dataBits),
  ("port_data_width", Json.ofWord32 geometry.accessWidth)]

def record : Record SdramGeometry :=
  SdramGeometry.mk <$> .required "bankbits" Json.word32
    <*> .required "rowbits" Json.word32
    <*> .required "colbits" Json.word32
    <*> .required "databits" Json.word32
    <*> .required "port_data_width" Json.word32

def ofJson : Json → Decoded SdramGeometry := record.decode .lenient

end SdramGeometry

def PeripheralKind.toJson : PeripheralKind → Json
  | controller => .str "controller"
  | cpu => .str "cpu"
  | ram => .str "ram"
  | rom => .str "rom"
  | csrBridge => .str "csr_bridge"
  | timer => .str "timer"
  | identifier text => .obj [("identifier", .obj [("identifier", .str text)])]
  | uart kind baudrate =>
    .obj [("uart", .obj [("kind", kind.toJson), ("baudrate", Json.ofWord32 baudrate)])]
  | uartPhy => .str "uart_phy"
  | sdram => .str "sdram"
  | other => .str "other"

def Peripheral.toJson (peripheral : Peripheral) : Json := .obj [
  ("kind", peripheral.kind.toJson),
  ("event_source", .bool peripheral.eventSource),
  ("csr_constants", Json.ofList (Json.ofNamed Constant.toJson) peripheral.constants),
  ("csr_memories", Json.ofList .str peripheral.memories)]

end SystemOnChip
