import SystemOnChip.Csr
import SystemOnChip.Json.Decode
import SystemOnChip.Json.Encode

/-! Locations, and the configuration of the register bus, as JSON. -/
namespace SystemOnChip

def LocationTable.toJson (table : LocationTable) : Json := .obj [
  ("space", .str table.space),
  ("capacity", Json.ofWord32 table.capacity),
  ("locs", Json.ofNameMap Json.ofWord32 table.slots)]

namespace Csr

namespace Config

def toJson (config : Config) : Json := .obj [
  ("data_width", Json.ofWord32 config.dataWidth),
  ("address_width", Json.ofWord32 config.addressWidth),
  ("alignment", Json.ofWord32 config.alignment),
  ("paging", Json.ofWord32 config.paging),
  ("reserved_csrs", Json.ofNameMap Json.ofWord32 config.reserved)]

def record : Record Config :=
  let absent : Config := {}
  Config.mk <$> .withDefault "data_width" Json.word32 absent.dataWidth
    <*> .withDefault "address_width" Json.word32 absent.addressWidth
    <*> .withDefault "alignment" Json.word32 absent.alignment
    <*> .withDefault "paging" Json.word32 absent.paging
    <*> .withDefault "reserved_csrs" (Json.nameMap Json.word32) absent.reserved

def ofJson : Json → Decoded Config := record.decode .lenient

end Config

namespace Interface

def toJson (interface : Interface) : Json :=
  .obj [("data_width", Json.ofWord32 interface.dataWidth)]

def ofJson : Json → Decoded Interface :=
  (Interface.mk <$> Record.required "data_width" Json.word32).decode .lenient

end Interface

end Csr

end SystemOnChip
