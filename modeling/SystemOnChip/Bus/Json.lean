import SystemOnChip.Bus.Basic
import SystemOnChip.Region.Json

/-! The bus and its configuration as JSON. -/
namespace SystemOnChip.Bus

namespace Standard

def toJson (standard : Standard) : Json := .str standard.name

/-- A standard that is not supported is refused by name. -/
def ofJson (json : Json) : Decoded Standard := do
  let name ← json.text
  match ofName? name with
  | some standard => .ok standard
  | none => .error (.refused (.unsupported "bus.standard" name))

end Standard

namespace Reservation

def toJson : Reservation → Json
  | byOrigin origin => .num origin
  | full region => region.toJson

/-- A word is an origin; anything else is a region, and must be readable to its
end before its fields count. -/
def ofJson : Json → Decoded Reservation
  | .num origin => .ok (byOrigin origin)
  | json =>
    if json.isReadable then full <$> Region.ofJson .plain json
    else .error (.unexpected "readable value")

end Reservation

namespace Config

def toJson (config : Config) : Json := .obj [
  ("standard", config.standard.toJson),
  ("data_width", Json.ofWord32 config.dataWidth),
  ("address_width", Json.ofWord32 config.addressWidth),
  ("timeout", Json.ofOption .num config.timeout),
  ("reserved_regions", Json.ofNameMap Reservation.toJson config.reservedRegions)]

def record : Record Config :=
  let absent : Config := {}
  Config.mk <$> .withDefault "standard" Standard.ofJson absent.standard
    <*> .withDefault "data_width" Json.word32 absent.dataWidth
    <*> .withDefault "address_width" Json.word32 absent.addressWidth
    <*> .withDefault "timeout" (Json.optional Json.word64) absent.timeout
    <*> .withDefault "reserved_regions" (Json.nameMap Reservation.ofJson) absent.reservedRegions

def ofJson : Json → Decoded Config := record.decode .lenient

end Config

namespace Interface

def toJson (interface : Interface) : Json :=
  .obj [("data_width", Json.ofWord32 interface.dataWidth)]

def ofJson : Json → Decoded Interface :=
  (Interface.mk <$> Record.required "data_width" Json.word32).decode .lenient

end Interface

def WidthConverter.toJson (converter : WidthConverter) : Json := .obj [
  ("from", Json.ofWord32 converter.source),
  ("to", Json.ofWord32 converter.target)]

def Attachment.toJson (attachment : Attachment) : Json := .obj [
  ("interface", attachment.interface.toJson),
  ("converter", Json.ofOption WidthConverter.toJson attachment.converter)]

def toJson (bus : Bus) : Json := .obj [
  ("standard", bus.standard.toJson),
  ("data_width", Json.ofWord32 bus.dataWidth),
  ("address_width", Json.ofWord32 bus.addressWidth),
  ("timeout", Json.ofOption .num bus.timeout),
  ("masters", Json.ofList (Json.ofNamed Attachment.toJson) bus.masters),
  ("slaves", Json.ofList (Json.ofNamed Attachment.toJson) bus.slaves),
  ("regions", bus.regions.toJson),
  ("io_regions", bus.windows.toJson),
  ("linker_regions", bus.linkerRegions.toJson)]

end SystemOnChip.Bus
