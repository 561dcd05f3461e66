import SystemOnChip.Bus.Config
import SystemOnChip.Region.Table

/-! The system bus: its regions, its masters and its slaves. -/
namespace SystemOnChip

/-- Bus regions, io windows and linker regions are kept apart, but share one
space of names. -/
structure Bus where
  standard : Bus.Standard
  dataWidth : UInt32
  addressWidth : UInt32
  timeout : Option UInt64
  masters : List (String × Bus.Attachment) := []
  slaves : List (String × Bus.Attachment) := []
  regions : RegionTable := {}
  windows : RegionTable := {}
  linkerRegions : RegionTable := {}
deriving DecidableEq

namespace Bus

def supportedDataWidths : List UInt32 := [32, 64]

def supportedAddressWidths : List UInt32 := [32]

def master? (bus : Bus) (name : String) : Option Attachment := bus.masters.lookup name

def slave? (bus : Bus) (name : String) : Option Attachment := bus.slaves.lookup name

/-- Whether software finds a region of this name. -/
def declares (bus : Bus) (name : String) : Bool :=
  bus.regions.contains name || bus.linkerRegions.contains name

/-- The first address beyond the address space. -/
def addressLimit (bus : Bus) : UInt64 := 1 <<< bus.addressWidth.toUInt64

def summary (bus : Bus) : String :=
  s!"{bus.dataWidth}-bit {bus.standard.name}"

def gibibytes (bus : Bus) : UInt64 := bus.addressLimit / 1073741824

/-- A titled list of names; nothing where there are none. -/
def listing (title : String) (entries : List (String × Attachment)) : String :=
  if entries.isEmpty then ""
  else
    let rows := entries.map fun (name, _) => s!"\n- {name}"
    s!"\n{title}: ({entries.length})" ++ String.join rows

def text (bus : Bus) : String :=
  s!"{bus.summary} Bus, {bus.gibibytes}GiB Address Space." ++
    bus.windows.text "IO" ++ bus.linkerRegions.text "Linker" ++ bus.regions.text "Bus" ++
    listing "Bus Masters" bus.masters ++ listing "Bus Slaves" bus.slaves

end Bus

end SystemOnChip
