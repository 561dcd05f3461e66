import SystemOnChip.Proofs.Location.Vacancy
import SystemOnChip.Proofs.Peripheral
import SystemOnChip.Proofs.Soc.Extension
import SystemOnChip.Proofs.Soc.Faults

/-! The main memory of a system: which geometries are refused, what is recorded of the others,
and that there is one main memory at most. -/
namespace SystemOnChip.Soc

/-- The system with a main memory in its tables: a cached region and its slave, the location of
the registers, the size of the cache and the component. -/
def withMainMemory (soc : Soc) (name : String) (origin size : UInt64) (attachment : Bus.Attachment)
    (slot : UInt32) (cache : UInt64) : Soc :=
  { soc with
    bus := { soc.bus with
      regions := soc.bus.regions.push "main_ram"
        { origin := some origin, size, mode := .readWrite, cached := true, kind := .bus }
      slaves := soc.bus.slaves ++ [("main_ram", attachment)] }
    csr := { soc.csr with locations := soc.csr.locations.record name slot }
    constants := ⟨soc.constants.entries.insert "CONFIG_L2_SIZE" (.int cache)⟩
    peripherals := soc.peripherals.insert name { kind := .sdram } }

/-- The later system is the earlier one with a main memory, of which nothing was there before.
The memory is as large as the device unless it is capped, and its registers have the least
free location. -/
structure MapsMemory (soc after : Soc) (name : String) (geometry : SdramGeometry)
    (origin : UInt64) (cap : Option UInt64) (cacheSize : UInt64) (size : UInt64) (slot : UInt32)
    (cache : UInt64) : Prop where
  entered : after = soc.withMainMemory name origin size ⟨⟨soc.bus.dataWidth⟩, none⟩ slot cache
  sized : size.toNat = match cap with
    | some cap => min geometry.bytes cap.toNat
    | none => geometry.bytes
  ends : origin.toNat + size.toNat ≤ 2 ^ 32
  rounded : geometry.RoundsCache cacheSize cache
  unplaced : "main_ram" ∉ soc.bus.regionNames
  unattached : soc.bus.slave? "main_ram" = none
  unlocated : soc.csr.locations.get? name = none
  free : slot < soc.csr.locations.capacity ∧ ∀ other, soc.csr.locations.get? other ≠ some slot
  least : ∀ lower < slot, ∃ other, soc.csr.locations.get? other = some lower
  undefined : soc.constants.get? "CONFIG_L2_SIZE" = none
  unregistered : soc.peripheral? name = none

variable {soc : Soc} {name : String} {geometry : SdramGeometry} {origin cacheSize : UInt64}
  {cap : Option UInt64}

theorem addSdram_refused_iff (fresh : soc.peripherals.contains name = false) :
    (addSdram name geometry origin cap cacheSize soc).result = .error geometry.fault ↔
      ¬ geometry.IsCounted := by
  constructor
  · intro failed
    have about : geometry.fault.subject = .configuration := rfl
    -- what comes behind the geometry fails for other things that it declares
    have declared (capacity : UInt64) : (do
        discard <| assign .csr name none false
        attachRegion "main_ram" (Region.fixed origin (min capacity (cap.getD capacity)))
        configure "L2_SIZE" (.int (geometry.cacheSize cacheSize))
        install name { kind := .sdram } :
        Call Soc Unit).FailsOver [.location, .slave, .region, .constant] := by
      apply Call.FailsOver.bind (.map (assign_failsOver.widen (by simp)))
      intro _
      apply Call.FailsOver.bind (attachRegion_failsOver.widen (by simp))
      intro _
      exact .bind (configure_failsOver.widen (by simp)) fun _ => .of_succeeds .update
    unfold addSdram at failed
    rcases Call.bind_ask_error_iff.mp failed with failed | ⟨_, -, failed⟩
    · exact absurd about (requireNew_failsOver.subject_ne failed (by decide))
    rcases Call.bind_ask_error_iff.mp failed with failed | ⟨capacity, -, failed⟩
    · exact (SdramGeometry.size_error_iff_not_isCounted.mp failed).1
    · exact absurd about ((declared capacity).subject_ne failed (by decide))
  · intro uncounted
    have unsized := SdramGeometry.size_error_iff_not_isCounted.mpr ⟨uncounted, rfl⟩
    refine Call.bind_ask_error_iff.mpr (.inr ⟨(), by simp [fresh], ?_⟩)
    exact Call.bind_ask_error_iff.mpr (.inl unsized)

/-- A memory has the bytes of its device if its words and the bits in them can be counted in 64
bits, and is refused otherwise, also where its bytes could be counted. -/
theorem memory_sized_if_bits_are_counted (geometry : SdramGeometry) :
    (∀ capacity, geometry.size.result = .ok capacity ↔
      geometry.IsCounted ∧ capacity.toNat = geometry.bytes) ∧
    (∀ fault, geometry.size.result = .error fault ↔
      ¬ geometry.IsCounted ∧ fault = geometry.fault) ∧
    (geometry.SizedByBytes ↔ geometry.IsCounted ∨ 2 ^ 64 ≤ geometry.bytes) ∧
    ∀ (soc : Soc) (name : String) (origin : UInt64) (cap : Option UInt64) (cacheSize : UInt64),
      soc.peripherals.contains name = false →
      (((Declaration.sdram name geometry origin cap cacheSize).perform soc).result =
        .error geometry.fault ↔ ¬ geometry.IsCounted) := by
  refine ⟨fun _ => SdramGeometry.size_ok_iff_isCounted,
    fun _ => SdramGeometry.size_error_iff_not_isCounted, SdramGeometry.sizedByBytes_iff, ?_⟩
  intro soc name origin cap cacheSize fresh
  exact Call.map_error_iff.trans (addSdram_refused_iff fresh)

theorem memory_of_many_words_refused : ∃ soc : Soc, (run {} []).result = .ok soc ∧
    soc.peripherals.contains "sdram" = false ∧
    ((Declaration.sdram "sdram" ⟨3, 40, 30, 16, 128⟩ 0x40000000 (some 0x10000000) 0).perform
      soc).result = .error (.unsupported "sdram.geometry"
        "3 bank, 40 row, 30 column bits of 16 data bits") := by
  have evaluated : (do
      let soc ← run {} []
      pure (soc.peripherals.contains "sdram") : Verdict Bool).result = .ok false := by
    decide +kernel
  simp only [Verdict.bind_ok_iff, Verdict.result_pure, Except.ok.injEq] at evaluated
  obtain ⟨soc, ran, fresh⟩ := evaluated
  obtain ⟨-, -, -, refused⟩ := memory_sized_if_bits_are_counted ⟨3, 40, 30, 16, 128⟩
  exact ⟨soc, ran, fresh, (refused soc "sdram" _ _ _ fresh).mpr (by decide)⟩

theorem memory_of_countable_bytes_refused :
    SdramGeometry.bytes ⟨3, 30, 28, 8, 128⟩ = 2 ^ 61 ∧
    (SdramGeometry.size ⟨3, 30, 28, 8, 128⟩).result = .error (.unsupported "sdram.geometry"
      "3 bank, 30 row, 28 column bits of 8 data bits") ∧
    ¬ SdramGeometry.SizedByBytes ⟨3, 30, 28, 8, 128⟩ := by
  have bytes : SdramGeometry.bytes ⟨3, 30, 28, 8, 128⟩ = 2 ^ 61 := by decide +kernel
  refine ⟨bytes, by decide +kernel, ?_⟩
  rw [SdramGeometry.sizedByBytes_iff, bytes]
  decide +kernel

theorem upper_cacheName : Text.upper "CONFIG_L2_SIZE" = "CONFIG_L2_SIZE" := by decide +kernel

theorem configureCache_runs {size : UInt64} : (configure "L2_SIZE" (.int size)).Runs Step soc
    fun _ after => soc.constants.entries.contains "CONFIG_L2_SIZE" = false ∧ after = { soc with
      constants := ⟨soc.constants.entries.insert "CONFIG_L2_SIZE" (.int size)⟩ } := by
  have runs : (define "CONFIG_L2_SIZE" (.int size)).Runs Step soc _ := define_runs
  rw [upper_cacheName] at runs
  exact runs

theorem addSdram_stores : (addSdram name geometry origin cap cacheSize).Runs Step soc
    fun _ after => ∃ capacity size slot attachment,
      geometry.size.result = .ok capacity ∧ size = min capacity (cap.getD capacity) ∧
      soc.peripherals.contains name = false ∧
      (soc.csr.locations.choose name none).result = .ok slot ∧
      soc.bus.slave? "main_ram" = none ∧
      (soc.bus.settle "main_ram" (Region.fixed origin size)).result =
        .ok (Region.fixed origin size) ∧
      soc.constants.entries.contains "CONFIG_L2_SIZE" = false ∧
      attachment.interface = ⟨soc.bus.dataWidth⟩ ∧
      after = soc.withMainMemory name origin size attachment slot
        (geometry.cacheSize cacheSize) := by
  refine bind_requireNew fun fresh => ?_
  refine .bind_ask fun capacity sized => ?_
  refine .bind (.discard (assign_runs_on LocationTable.assign_records)) ?_
  rintro _ _ ⟨slot, table, ⟨chosen, rfl⟩, rfl⟩
  refine .bind (attachRegion_stores rfl) ?_
  rintro _ _ ⟨free, -, settled, attachment, same, rfl⟩
  refine .bind configureCache_runs ?_
  rintro _ _ ⟨undefined, rfl⟩
  refine .weaken (install_runs fresh) ?_
  rintro _ _ rfl
  exact ⟨capacity, _, slot, attachment, sized, rfl, fresh, chosen, free, settled, undefined, same,
    rfl⟩

theorem mapsMemory_of_addSdram (sound : soc.Sound)
    (mapped : (addSdram name geometry origin cap cacheSize soc).result = .ok ()) :
    ∃ size slot cache, soc.MapsMemory (addSdram name geometry origin cap cacheSize soc).state name
      geometry origin cap cacheSize size slot cache := by
  have runs : (addSdram name geometry origin cap cacheSize).Runs Step soc _ := addSdram_stores
  obtain ⟨capacity, size, slot, attachment, sized, capped, fresh, chosen, unattached, settled,
    undefined, same, after⟩ := runs.done () mapped
  have soundAfter := (sound.steps runs.path).bus
  rw [after] at soundAfter ⊢
  have adapted : attachment.Matches soc.bus.dataWidth :=
    soundAfter.adapted ("main_ram", attachment) (by simp [withMainMemory])
  obtain ⟨unlocated, ⟨-, found⟩ | ⟨given, -⟩⟩ := LocationTable.choose_ok_iff.mp chosen
  · obtain ⟨below, free, least⟩ := LocationTable.firstFree?_eq_some_iff.mp found
    refine ⟨size, slot, _, ?entered, ?sized, ?ends, geometry.roundsCache cacheSize, ?unplaced,
      unattached, unlocated, ?free, ?least, ?undefined, NameMap.contains_eq_false_iff.mp fresh⟩
    case entered => rw [adapted.eq_of_interface same]
    case sized =>
      rw [capped]
      exact SdramGeometry.toNat_min_capacity (SdramGeometry.size_ok_iff.mp sized) cap
    case ends =>
      have limit := sound.bus.settled_limit_le (Bus.settled_of_settle settled).1
        (by simp [Region.fixed])
      rw [sound.bus.addressWidth_eq] at limit
      exact limit
    case unplaced => exact (Bus.settle_ok_iff.mp settled).1
    case free => exact ⟨below, sound.csr.locations.not_taken_iff.mp free⟩
    case least => exact fun lower less => (sound.csr.locations.taken lower).mp (least lower less)
    case undefined =>
      rw [ConstantTable.get?, upper_cacheName]
      exact NameMap.contains_eq_false_iff.mp undefined
  · contradiction

theorem not_mapped_again (attached : (soc.bus.slave? "main_ram").isSome) :
    (addSdram name geometry origin cap cacheSize soc).result ≠ .ok () := by
  intro mapped
  obtain ⟨_, _, _, _, -, -, -, -, free, -⟩ := addSdram_stores.done () mapped
  rw [free] at attached
  contradiction

end SystemOnChip.Soc
