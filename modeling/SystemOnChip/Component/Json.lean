import SystemOnChip.Component
import SystemOnChip.Peripheral.Json

/-! Components as JSON: the type of one stands beside its fields. -/
namespace SystemOnChip.Component

/-- The rate of a uart that names none. -/
def standardBaudrate : UInt32 := 115200

/-- The fields of a component of the given type. -/
def record? (type : String) : Option (Record Component) :=
  let name := Record.required "name" Json.text
  let maybeName := Record.optional "name" Json.text
  let origin := Record.required "origin" Json.word64
  let size := Record.required "size" Json.word64
  let interface := Bus.Interface.mk <$> Record.required "data_width" Json.word32
  let wanted := Record.optional "location" Json.word32
  match type with
  | "controller" => some (controller <$> name)
  | "cpu" => some (cpu <$> Cpu.record)
  | "ram" => some (ram <$> name <*> origin <*> size
    <*> .withDefault "mode" (AccessMode.ofJson .component) .readWrite)
  | "rom" => some (rom <$> name <*> origin <*> size)
  | "csr_bridge" => some (csrBridge <$> origin)
  | "timer" => some (timer <$> name)
  | "identifier" => some (identifier <$> name <*> .required "identifier" Json.text
    <*> .optional "build_time" Json.text)
  | "uart" => some (uart <$> .required "kind" (UartKind.ofJson .component)
    <*> .withDefault "baudrate" Json.word32 standardBaudrate)
  | "sdram" => some (sdram <$> name <*> .required "settings" SdramGeometry.ofJson <*> origin
    <*> .optional "size" Json.word64 <*> .withDefault "l2_cache_size" Json.word64 0)
  | "peripheral" => some (peripheral <$> name
    <*> .withDefault "event_source" Json.truth false
    <*> .withDefault "csr" Json.truth false
    <*> .withDefault "irq" Json.truth false
    <*> .withDefault "csr_constants" (Json.nameMap Json.word64) .empty)
  | "region" => some (region <$> name <*> .required "region" (Region.ofJson .component))
  | "master" => some (master <$> maybeName <*> interface)
  | "slave" => some (slave <$> maybeName <*> interface
    <*> .optional "region" (Region.ofJson .component))
  | "csr" => some (location .csr <$> name <*> wanted)
  | "irq" => some (location .irq <$> name <*> wanted)
  | "constant" => some (constant <$> name <*> .required "value" Json.word64)
  | _ => none

def ofFields (type fields : Json) : Decoded Component := do
  match record? (← type.text) with
  | some record => record.decode .lenient fields
  | none => .error (.unexpected "type of component")

/-- The type stands among the members of an object, or in front of the fields in
an array. A component must be readable to its end before its fields count. -/
def ofJson (json : Json) : Decoded Component :=
  if json.isReadable then
    match json with
    | .obj members =>
      match members.partition (·.1 == "type") with
      | ([(_, type)], fields) => ofFields type (.obj fields)
      | ([], _) => .error (.missing "type")
      | _ => .error (.repeated "type")
    | .arr (type :: fields) => ofFields type (.arr fields)
    | _ => .error (.unexpected "component")
  else .error (.unexpected "readable value")

end SystemOnChip.Component
