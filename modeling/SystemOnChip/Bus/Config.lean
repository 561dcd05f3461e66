import SystemOnChip.NameMap
import SystemOnChip.Region

/-! What a bus is configured with, and the interfaces attached to it. -/
namespace SystemOnChip.Bus

inductive Standard where
  | wishbone
deriving DecidableEq

namespace Standard

def name : Standard → String
  | wishbone => "wishbone"

def ofName? : String → Option Standard
  | "wishbone" => some wishbone
  | _ => none

end Standard

/-- A region set aside when the bus is created, in full or by its origin alone. -/
inductive Reservation where
  | byOrigin (origin : UInt64)
  | full (region : Region)
deriving DecidableEq

/-- The size of a reservation that gives its origin alone. -/
def reservedSize : UInt64 := 0x1000000

def Reservation.toRegion : Reservation → Region
  | byOrigin origin => Region.fixed origin reservedSize
  | full region => region

/-- Without a timeout a stalled transaction is never aborted. Reservations are
declared in the order of their names. -/
structure Config where
  standard : Standard := .wishbone
  dataWidth : UInt32 := 32
  addressWidth : UInt32 := 32
  timeout : Option UInt64 := some 1000000
  reservedRegions : NameMap Reservation := .empty
deriving DecidableEq

/-- What a component brings to be attached to the bus. -/
structure Interface where
  dataWidth : UInt32
deriving DecidableEq

/-- A bridge between two data widths. -/
structure WidthConverter where
  source : UInt32
  target : UInt32
deriving DecidableEq

/-- An attached interface, with a converter where its width is not the bus's. -/
structure Attachment where
  interface : Interface
  converter : Option WidthConverter
deriving DecidableEq

/-- The data width that the interconnect sees. -/
def Attachment.dataWidth (attachment : Attachment) : UInt32 :=
  match attachment.converter with
  | some converter => converter.target
  | none => attachment.interface.dataWidth

end SystemOnChip.Bus
