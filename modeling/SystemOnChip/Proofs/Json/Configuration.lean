import SystemOnChip.Json.Printer
import SystemOnChip.Json.Reader
import SystemOnChip.Peripheral.Json
import SystemOnChip.Proofs.Json.Codec
import SystemOnChip.Soc.Json

/-! Configurations survive a round trip through JSON: the configuration of a system and
those of its parts, and what components are described with. -/
namespace SystemOnChip
open Json (Faithful)

theorem AccessMode.faithful (place : Json.Place) : Faithful toJson (ofJson place) :=
  .choice fun mode => by cases mode <;> rfl

theorem RegionKind.faithful (place : Json.Place) : Faithful toJson (ofJson place) :=
  .choice fun kind => by cases kind <;> rfl

/-- A region without an origin is one again. -/
theorem Region.faithful (place : Json.Place) : Faithful toJson (ofJson place) := by
  refine .record (fun _ => by simp) ?_
  rintro ⟨origin, size, mode, cached, kind⟩
  exact Record.Takes.map (.field (.option .word64 (by simp)))
    |>.seq (.field .word64)
    |>.seq (.field (AccessMode.faithful place))
    |>.seq (.field .truth)
    |>.seq (.field (RegionKind.faithful place))

namespace Bus

theorem Standard.faithful : Faithful toJson ofJson where
  back standard := by cases standard; rfl
  readable _ := rfl

/-- An origin is a number, and a reservation in full an object. -/
theorem Reservation.faithful : Faithful toJson ofJson where
  back
    | byOrigin _ => rfl
    | full region => by
      have readable := (Region.faithful .plain).readable region
      have object : ∀ origin, region.toJson ≠ .num origin := by simp [Region.toJson]
      rw [toJson, ofJson, if_pos readable, (Region.faithful .plain).back]
      · rfl
      · exact object
  readable
    | byOrigin _ => rfl
    | full region => (Region.faithful .plain).readable region

/-- A bus that never aborts writes its timeout as null; left out it would be the
standard one. -/
theorem Config.faithful : Faithful toJson ofJson := by
  refine .record (fun _ => by simp) ?_
  rintro ⟨standard, dataWidth, addressWidth, timeout, reservedRegions⟩
  exact Record.Takes.map (.field Standard.faithful)
    |>.seq (.field .word32)
    |>.seq (.field .word32)
    |>.seq (.field (.option .word64 (by simp)))
    |>.seq (.field (.nameMap Reservation.faithful))

theorem Interface.faithful : Faithful toJson ofJson := by
  refine .record (fun _ => by simp) ?_
  rintro ⟨dataWidth⟩
  exact .map (.field .word32)

end Bus

namespace Csr

theorem Config.faithful : Faithful toJson ofJson := by
  refine .record (fun _ => by simp) ?_
  rintro ⟨dataWidth, addressWidth, alignment, paging, reserved⟩
  exact Record.Takes.map (.field .word32)
    |>.seq (.field .word32)
    |>.seq (.field .word32)
    |>.seq (.field .word32)
    |>.seq (.field (.nameMap .word32))

theorem Interface.faithful : Faithful toJson ofJson := by
  refine .record (fun _ => by simp) ?_
  rintro ⟨dataWidth⟩
  exact .map (.field .word32)

end Csr

theorem Irq.Config.faithful : Faithful toJson ofJson := by
  refine .record (fun _ => by simp) ?_
  rintro ⟨count, reserved⟩
  exact Record.Takes.map (.field .word32)
    |>.seq (.field (.nameMap .word32))

theorem Soc.Config.faithful : Faithful toJson ofJson := by
  refine .record (fun _ => by simp) ?_
  rintro ⟨clockFrequency, bus, csr, irq⟩
  exact Record.Takes.map (.field .word64)
    |>.seq (.field Bus.Config.faithful)
    |>.seq (.field Csr.Config.faithful)
    |>.seq (.field Irq.Config.faithful)

/-- A flag is null, and no other constant is. -/
theorem Constant.faithful : Faithful toJson ofJson where
  back value := by cases value <;> rfl
  readable value := by cases value <;> rfl

/-- Only the kind that carries its pads is an object. -/
theorem UartKind.faithful (place : Json.Place) : Faithful toJson (ofJson place) where
  back kind := by cases kind <;> rfl
  readable kind := by cases kind <;> rfl

theorem Cpu.faithful : Faithful toJson ofJson := by
  refine .record (fun _ => by simp) ?_
  rintro ⟨name, variant, buses, interrupts, windows, resetAddress, interruptLines⟩
  exact Record.Takes.map (.field .text)
    |>.seq (.field .text)
    |>.seq (.field (.list Bus.Interface.faithful))
    |>.seq (.field (.nameMap .word32))
    |>.seq (.field (.list (.pair .word64 .word64)))
    |>.seq (.field (.option .word64 (by simp)))
    |>.seq (.field .truth)

theorem SdramGeometry.faithful : Faithful toJson ofJson := by
  refine .record (fun _ => by simp) ?_
  rintro ⟨bankBits, rowBits, columnBits, dataBits, accessWidth⟩
  exact Record.Takes.map (.field .word32)
    |>.seq (.field .word32)
    |>.seq (.field .word32)
    |>.seq (.field .word32)
    |>.seq (.field .word32)

namespace Json

/-- Every value is found again in what it is encoded as, and in the text that is printed
for it where that is read back as what was printed. -/
structure RoundTrips {α : Type} (encode : α → Json) (decode : Json → Decoded α) : Prop where
  value : ∀ value, decode (encode value) = .ok value
  text : ∀ (print : Json → String) (read : String → Json × Bool) (value : α),
    read (print (encode value)) = (encode value, false) →
      Decoded.ofText decode (read (print (encode value))) = .ok value

theorem Faithful.roundTrips {α : Type} {encode : α → Json} {decode : Json → Decoded α}
    (faithful : Faithful encode decode) : RoundTrips encode decode where
  value := faithful.back
  text print read value same := by
    rw [same, Decoded.ofText, faithful.back]
    rfl

/-- The configuration of a system, those of its parts, and what regions, reservations,
interfaces, constants and components are described with, are all decoded to what was
encoded, wherever they stand in a description. -/
theorem configurations_round_trip :
    RoundTrips Soc.Config.toJson Soc.Config.ofJson ∧
    RoundTrips Bus.Config.toJson Bus.Config.ofJson ∧
    RoundTrips Csr.Config.toJson Csr.Config.ofJson ∧
    RoundTrips Irq.Config.toJson Irq.Config.ofJson ∧
    (∀ place, RoundTrips Region.toJson (Region.ofJson place)) ∧
    RoundTrips Bus.Reservation.toJson Bus.Reservation.ofJson ∧
    RoundTrips Cpu.toJson Cpu.ofJson ∧
    RoundTrips SdramGeometry.toJson SdramGeometry.ofJson ∧
    (∀ place, RoundTrips UartKind.toJson (UartKind.ofJson place)) ∧
    RoundTrips Constant.toJson Constant.ofJson ∧
    RoundTrips Bus.Standard.toJson Bus.Standard.ofJson ∧
    (∀ place, RoundTrips AccessMode.toJson (AccessMode.ofJson place)) ∧
    (∀ place, RoundTrips RegionKind.toJson (RegionKind.ofJson place)) ∧
    RoundTrips Bus.Interface.toJson Bus.Interface.ofJson ∧
    RoundTrips Csr.Interface.toJson Csr.Interface.ofJson := by
  refine ⟨Soc.Config.faithful.roundTrips, Bus.Config.faithful.roundTrips,
    Csr.Config.faithful.roundTrips, Irq.Config.faithful.roundTrips, fun place => ?_,
    Bus.Reservation.faithful.roundTrips, Cpu.faithful.roundTrips,
    SdramGeometry.faithful.roundTrips, fun place => ?_, Constant.faithful.roundTrips,
    Bus.Standard.faithful.roundTrips, fun place => ?_, fun place => ?_,
    Bus.Interface.faithful.roundTrips, Csr.Interface.faithful.roundTrips⟩
  · exact (Region.faithful place).roundTrips
  · exact (UartKind.faithful place).roundTrips
  · exact (AccessMode.faithful place).roundTrips
  · exact (RegionKind.faithful place).roundTrips

/-- A bus without a timeout, in its text as it is printed and read. -/
example : Decoded.ofText Bus.Config.ofJson
    (ofText (Bus.Config.toJson { timeout := none }).compact) = .ok { timeout := none } := by
  decide +kernel

end Json

end SystemOnChip
