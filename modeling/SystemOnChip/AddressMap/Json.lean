import SystemOnChip.AddressMap.Basic
import SystemOnChip.Bus.Json
import SystemOnChip.Constant.Json
import SystemOnChip.Csr.Json

/-! Address maps as JSON. -/
namespace SystemOnChip

def Decoder.toJson (decoder : Decoder) : Json := .obj [
  ("origin_words", .num decoder.originWords),
  ("shift", Json.ofWord32 decoder.shift),
  ("decode_bits", Json.ofWord32 decoder.decodeBits),
  ("word_shift", Json.ofWord32 decoder.wordShift)]

/-- The outputs of the interconnect are registered. -/
def BusInterconnect.toJson (interconnect : BusInterconnect) : Json := .obj [
  ("masters", Json.ofList .str interconnect.masters),
  ("slaves", Json.ofList (Json.ofNamed Decoder.toJson) interconnect.slaves),
  ("register", .bool true),
  ("timeout_cycles", Json.ofOption .num interconnect.timeoutCycles)]

def CsrInterconnect.toJson (interconnect : CsrInterconnect) : Json := .obj [
  ("masters", Json.ofList .str interconnect.masters),
  ("slaves", Json.ofList .str interconnect.slaves)]

def CsrOwner.toJson : CsrOwner → Json
  | bank name => .obj [("bank", .str name)]
  | memory component name =>
    .obj [("memory", .obj [("component", .str component), ("memory", .str name)])]

def CsrPage.toJson (page : CsrPage) : Json := .obj [
  ("origin", .num page.origin),
  ("busword", Json.ofWord32 page.busWord),
  ("object", page.owner.toJson)]

def IrqWire.toJson (wire : IrqWire) : Json := .obj [
  ("line", Json.ofWord32 wire.line),
  ("source", .str wire.source)]

def Csr.toJson (csr : Csr) (pages : List (String × CsrPage)) : Json := .obj [
  ("data_width", Json.ofWord32 csr.dataWidth),
  ("address_width", Json.ofWord32 csr.addressWidth),
  ("alignment", Json.ofWord32 csr.alignment),
  ("paging", Json.ofWord32 csr.paging),
  ("locs", csr.locations.toJson),
  ("masters", Json.ofList (Json.ofNamed Csr.Interface.toJson) csr.masters),
  ("regions", Json.ofList (Json.ofNamed CsrPage.toJson) pages)]

def AddressMap.toJson (map : AddressMap) : Json := .obj [
  ("sys_clk_freq", .num map.clockFrequency),
  ("bus", map.bus.toJson),
  ("csr", map.csr.toJson map.csrPages),
  ("irq", .obj [("locs", map.irq.locations.toJson)]),
  ("constants", map.constants.toJson),
  ("bus_interconnect", Json.ofOption BusInterconnect.toJson map.busInterconnect),
  ("bus_error_sink", Json.ofOption .str map.busErrorSink),
  ("cpu_reset_source", Json.ofOption .str map.resetSource),
  ("csr_interconnect", Json.ofOption CsrInterconnect.toJson map.csrInterconnect),
  ("irq_wiring", Json.ofList IrqWire.toJson map.irqWires)]

end SystemOnChip
