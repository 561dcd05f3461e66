import SystemOnChip.Proofs.AddressMap.Pages
import SystemOnChip.Proofs.Bus.Exact

/-! Systems in exact arithmetic. Their creation, each declaration and the composition of the address
map end as over the integers, whatever was declared before: no operation on words wraps, divides
by zero or shifts by a width, and no end that was cut to the largest word changes a decision. -/
namespace SystemOnChip

namespace SdramGeometry

/-- The capacity, operation by operation. Here the program asks for each result whether it is
exact, and refuses the geometry otherwise. -/
def capacityExactly? (geometry : SdramGeometry) : Option UInt64 := do
  let addressBits ← Word.add32? (← Word.add32? geometry.bankBits geometry.rowBits)
    geometry.columnBits
  let words ← Word.shiftLeft? 1 addressBits
  let bits ← Word.mul? words geometry.dataBits.toUInt64
  return bits / 8

def sizeExactly (geometry : SdramGeometry) : Verdict.Exact UInt64 :=
  match geometry.capacityExactly? with
  | some size => pure size
  | none => throw geometry.fault

def cacheSizeExactly (geometry : SdramGeometry) (size : UInt64) : Option UInt64 :=
  if size = 0 then some 0
  else do
    let twoAccesses ← Word.mul? 2 (geometry.accessWidth.toUInt64 / 8)
    Word.previousPowerOfTwoExactly (max size twoAccesses)

variable {geometry : SdramGeometry}

theorem capacityExactly?_eq : geometry.capacityExactly? = geometry.size? := by
  refine Option.ext fun capacity => ?_
  simp only [capacityExactly?, Word.add32?, Word.shiftLeft?, Word.mul?, Option.bind_eq_bind,
    Option.bind_eq_some_iff, Option.pure_def, Option.some.injEq, Word.fit32?_eq_some_iff,
    Option.ite_none_right_eq_some, Word.fit?_eq_some_iff, size?_eq_some_iff, UInt64.toNat_one,
    UInt32.toNat_toUInt64, Nat.one_mul, UInt32.lt_iff_toNat_lt]
  constructor
  · rintro ⟨front, frontSum, total, sum, words, ⟨narrow, power⟩, bits, product, rfl⟩
    have addressBits : total.toNat = geometry.addressBits := by rw [sum, frontSum]; rfl
    have counted : bits.toNat = geometry.bits := by rw [product, power, addressBits]; rfl
    refine ⟨⟨addressBits ▸ narrow, counted ▸ bits.toNat_lt⟩, ?_⟩
    rw [UInt64.toNat_div, counted]
    rfl
  · rintro ⟨⟨narrow, counted⟩, same⟩
    have small (n : Nat) (below : n < 64) : (UInt32.ofNat n).toNat = n :=
      UInt32.toNat_ofNat_of_lt' (Nat.lt_trans below (by decide))
    have frontSum : geometry.bankBits.toNat + geometry.rowBits.toNat < 64 :=
      Nat.lt_of_le_of_lt (Nat.le_add_right _ _) narrow
    have total := small geometry.addressBits narrow
    have words : (UInt64.ofNat (2 ^ geometry.addressBits)).toNat = 2 ^ geometry.addressBits :=
      UInt64.toNat_ofNat_of_lt' (Nat.pow_lt_pow_right (by decide) narrow)
    have bits : (UInt64.ofNat geometry.bits).toNat = geometry.bits :=
      UInt64.toNat_ofNat_of_lt' counted
    refine ⟨_, small _ frontSum, UInt32.ofNat geometry.addressBits, ?_,
      UInt64.ofNat (2 ^ geometry.addressBits), ⟨?_, ?_⟩, UInt64.ofNat geometry.bits, ?_, ?_⟩
    · rw [total, small _ frontSum]
      rfl
    · rw [total]
      exact narrow
    · rw [words, total]
    · rw [bits, words]
      rfl
    · rw [← UInt64.toNat_inj, UInt64.toNat_div, bits, same]
      rfl

theorem size_computedBy : geometry.size.ComputedBy geometry.sizeExactly := by
  rw [size, sizeExactly, capacityExactly?_eq]
  cases geometry.size? <;> rfl

theorem cacheSizeExactly_eq (size : UInt64) :
    geometry.cacheSizeExactly size = some (geometry.cacheSize size) := by
  unfold cacheSizeExactly cacheSize
  split
  next => rfl
  next some =>
    have small := geometry.accessWidth.toNat_lt
    have bytes : (geometry.accessWidth.toUInt64 / 8).toNat ≤ geometry.accessWidth.toNat := by
      rw [UInt64.toNat_div, UInt32.toNat_toUInt64]
      exact Nat.div_le_self _ _
    have fits : (2 : UInt64).toNat * (geometry.accessWidth.toUInt64 / 8).toNat < UInt64.size := by
      change 2 * _ < 2 ^ 64
      omega
    rw [Word.mul?_eq_some fits]
    refine Word.previousPowerOfTwoExactly_eq fun zero => some ?_
    rw [← UInt64.toNat_inj, Word.toNat_max] at zero
    rw [← UInt64.toNat_inj]
    exact Nat.eq_zero_of_le_zero (Nat.le_trans (Nat.le_max_left _ _) (Nat.le_of_eq zero))

end SdramGeometry

namespace Csr

/-- The pages in the address space, whose number has to fit a word of 32 bits. -/
def capacityExactly (addressWidth paging : UInt32) : Option UInt32 := do
  let bytes ← Word.shiftLeft? 4 addressWidth
  let pages ← Word.div? bytes paging.toUInt64
  Word.fit32? pages.toNat

def ofConfigExactly (config : Config) : Verdict.Exact Csr := do
  (Verdict.require (supportedDataWidths.contains config.dataWidth)
    (.unsupported "csr.data_width" (toString config.dataWidth))).exactly
  (Verdict.require (supportedAddressWidths.contains config.addressWidth)
    (.unsupported "csr.address_width" (toString config.addressWidth))).exactly
  (Verdict.require
    (supportedAlignments.contains config.alignment && config.dataWidth ≤ config.alignment)
    (.unsupported "csr.alignment" (toString config.alignment))).exactly
  (Verdict.require (supportedPagings.contains config.paging)
    (.unsupported "csr.paging" (toString config.paging))).exactly
  let capacity ← liftM (capacityExactly config.addressWidth config.paging)
  ((reserve config.reserved.entries).completed {
    dataWidth := config.dataWidth
    addressWidth := config.addressWidth
    alignment := config.alignment
    paging := config.paging
    locations := { space := "CSR", capacity } }).exactly

theorem capacityExactly_eq {addressWidth paging : UInt32}
    (address : addressWidth ∈ supportedAddressWidths) (page : paging ∈ supportedPagings) :
    capacityExactly addressWidth paging = some (capacityOf addressWidth paging) := by
  rw [List.mem_singleton.mp page]
  rcases List.mem_cons.mp address with rfl | address
  · rfl
  · rw [List.mem_singleton.mp address]
    rfl

theorem ofConfig_computedBy (config : Config) :
    (ofConfig config).ComputedBy (ofConfigExactly config) := by
  refine .bind_info (.bind .exactly fun _ _ => .bind .exactly fun _ address => ?_)
  refine .bind .exactly fun _ _ => .bind .exactly fun _ page => ?_
  rw [Verdict.require_ok_iff, List.contains_iff_mem] at address page
  refine .bind_test (capacityExactly_eq address page) (.bind_info ?_)
  rw [← bind_pure (Verdict.exactly _)]
  exact .bind .exactly fun _ _ => .bind_info .pure

end Csr

namespace Soc
variable {α : Type}

def ofConfigExactly (config : Config) : Verdict.Exact Soc := do
  let bus ← Bus.ofConfigExactly config.bus
  let csr ← Csr.ofConfigExactly config.csr
  let irq ← (Irq.ofConfig config.irq).exactly
  ((onConstants
    (ConstantTable.configure "CLOCK_FREQUENCY" (.int config.clockFrequency))).completed
      { clockFrequency := config.clockFrequency, bus, csr, irq }).exactly

theorem ofConfig_computedBy (config : Config) :
    (ofConfig config).ComputedBy (ofConfigExactly config) := by
  refine .bind_info (.bind (Bus.ofConfig_computedBy config.bus) fun bus _ => ?_)
  refine .bind (Csr.ofConfig_computedBy config.csr) fun csr _ => ?_
  exact .bind .exactly fun irq _ => .bind_info .exactly

def onBusExactly (call : Call.Exact Bus α) : Call.Exact Soc α :=
  call.on bus fun bus soc => { soc with bus }

def attachRegionExactly (name : String) (region : Region) : Call.Exact Soc Unit := do
  let soc ← (Call.current : Call Soc Soc).exactly
  discard <| onBusExactly (Bus.attachSlaveExactly (some name) ⟨soc.bus.dataWidth⟩ (some region))

def addRamExactly (name : String) (origin size : UInt64) (mode : AccessMode) :
    Call.Exact Soc Unit := do
  (requireNew name).exactly
  attachRegionExactly name { Region.fixed origin size with mode }
  (install name { kind := if mode = .read then .rom else .ram }).exactly

def csrWindowExactly (csr : Csr) (origin : UInt64) : Option Region := do
  let size ← Word.shiftLeft? 1 (← Word.add32? csr.addressWidth 2)
  return { Region.fixed origin size with cached := false }

def addCsrBridgeExactly (origin : UInt64) : Call.Exact Soc Unit := do
  (requireNew "csr_bridge").exactly
  let soc ← (Call.current : Call Soc Soc).exactly
  let window ← liftM (csrWindowExactly soc.csr origin)
  attachRegionExactly csrRegionName window
  Call.exactly do
    discard <| onCsr (Csr.attachMaster (some "bridge") ⟨soc.csr.dataWidth⟩)
    install "csr_bridge" { kind := .csrBridge }
    configure "CSR_DATA_WIDTH" (.int soc.csr.dataWidth.toUInt64)
    configure "CSR_ALIGNMENT" (.int soc.csr.alignment.toUInt64)

def enterCpuExactly (cpu : Cpu) : Call.Exact Soc Unit := do
  cpu.windows.zipIdx.forM fun ((origin, size), index) => do
    discard <| onBusExactly (Bus.declareRegionExactly s!"io{index}" (Region.window origin size))
  Call.exactly do
    configure "CPU_TYPE" (.str cpu.name)
    configure "CPU_VARIANT" (.str cpu.baseVariant)
    install "cpu" { kind := .cpu }
    .update fun soc => { soc with cpu := some cpu }

def addCpuExactly (cpu : Cpu) : Call.Exact Soc Unit := do
  (requireNew "cpu").exactly
  if !cpu.isNone then (addCore cpu).exactly
  enterCpuExactly cpu

def addSdramExactly (name : String) (geometry : SdramGeometry) (origin : UInt64)
    (size : Option UInt64) (cacheSize : UInt64) : Call.Exact Soc Unit := do
  (requireNew name).exactly
  let deviceSize ← Call.Exact.ask fun _ => geometry.sizeExactly
  (discard <| assign .csr name none false).exactly
  attachRegionExactly "main_ram" (Region.fixed origin (min deviceSize (size.getD deviceSize)))
  let recorded ← liftM (geometry.cacheSizeExactly cacheSize)
  Call.exactly do
    configure "L2_SIZE" (.int recorded)
    install name { kind := .sdram }

/-- Declarations without a region do no arithmetic on words. -/
def Declaration.performExactly : Declaration → Call.Exact Soc Reply
  | region name stored => .region <$> onBusExactly (Bus.declareRegionExactly name stored)
  | slave name interface window =>
    .name <$> onBusExactly (Bus.attachSlaveExactly name interface window)
  | ram name origin size mode => (fun _ => .done) <$> addRamExactly name origin size mode
  | rom name origin size => (fun _ => .done) <$> addRamExactly name origin size .read
  | csrBridge origin => (fun _ => .done) <$> addCsrBridgeExactly origin
  | cpu core => (fun _ => .done) <$> addCpuExactly core
  | sdram name geometry origin size cacheSize =>
    (fun _ => .done) <$> addSdramExactly name geometry origin size cacheSize
  | declaration => declaration.perform.exactly

def decodedSlavesExactly (soc : Soc) : Verdict.Exact (List (String × Decoder)) :=
  soc.bus.slaves.mapM fun (name, _) => do
    let decoder ← soc.bus.decoderExactly name
    pure (name, decoder)

def busInterconnectExactly (soc : Soc) : Verdict.Exact (Option BusInterconnect) := do
  let slaves ← soc.decodedSlavesExactly
  let masters := soc.bus.masters.map (·.1)
  if masters.isEmpty || slaves.isEmpty then pure none
  else pure (some { masters, slaves, timeoutCycles := soc.bus.timeout })

def csrPageExactly (soc : Soc) (base : UInt64) (location : String) (slot : UInt32) :
    Option CsrPage := do
  let origin ← Word.add? base (← Word.mul? soc.csr.paging.toUInt64 slot.toUInt64)
  return { origin, busWord := soc.csr.dataWidth, owner := csrOwner soc.peripherals location }

def csrPagesExactly (soc : Soc) : Verdict.Exact (List (String × CsrPage)) :=
  let locations := soc.csr.locations.byLocation
  if locations.isEmpty then pure []
  else
    match (soc.bus.regions.get? csrRegionName).bind (·.origin) with
    | some base => locations.mapM fun (name, slot) => do
      let page ← liftM (soc.csrPageExactly base name slot)
      pure (name, page)
    | none => throw (.missingRequiredRegion csrRegionName)

def finalizeExactly (soc : Soc) : Verdict.Exact AddressMap := do
  let busInterconnect ← soc.busInterconnectExactly
  let csrPages ← soc.csrPagesExactly
  let constants ← ((publish soc.csrConstants).completed soc.constants).exactly
  soc.requireBootRegions.exactly
  let constants ← ((soc.connectLines soc.externalLines).completed constants).exactly
  pure {
    clockFrequency := soc.clockFrequency
    bus := soc.bus
    csr := soc.csr
    csrPages := pagesByOrigin csrPages
    irq := soc.irq
    constants
    busInterconnect
    busErrorSink := soc.busErrorSink busInterconnect
    resetSource := soc.resetSource
    csrInterconnect := soc.csrInterconnect
    irqWires := irqWires soc.externalLines }

/-- Whatever is done with a system next is exact: any declaration, the composition of its address
map, building and asking the decoders of its regions, and telling the sizes of its address
spaces. -/
structure ComputesExactly (soc : Soc) : Prop where
  declares : ∀ declaration : Declaration,
    declaration.perform.ComputedBy declaration.performExactly soc
  finalizes : soc.finalize.ComputedBy soc.finalizeExactly
  builds : ∀ name, (soc.bus.decoder name).ComputedBy (soc.bus.decoderExactly name)
  claims : ∀ name decoder, (soc.bus.decoder name).result = .ok decoder →
    (∀ address, decoder.claimsExactly address = some (decoder.claims address)) ∧
      Word.shiftLeft? 1 decoder.wordShift = some decoder.wordSize
  describes : Word.shiftLeft? 1 soc.bus.addressWidth = some soc.bus.addressLimit ∧
    Word.shiftLeft? 1 soc.csr.addressWidth = some (1 <<< soc.csr.addressWidth.toUInt64)

variable {soc : Soc} {name : String}

namespace Sound

theorem attachRegion_computedBy (sound : soc.Sound) {region : Region} :
    (attachRegion name region).ComputedBy (attachRegionExactly name region) soc :=
  .bind .exactly fun _ _ => .map (.on sound.bus.attachSlave_computedBy)

theorem addRam_computedBy (sound : soc.Sound) {origin size : UInt64} {mode : AccessMode} :
    (addRam name origin size mode).ComputedBy (addRamExactly name origin size mode) soc := by
  refine .bind .exactly fun _ _ => .bind sound.attachRegion_computedBy fun _ _ => ?_
  rfl

theorem csrWindowExactly_eq (sound : soc.Sound) {origin : UInt64} :
    csrWindowExactly soc.csr origin = some (csrWindow soc.csr origin) := by
  rw [csrWindowExactly, csrWindow]
  rcases sound.csr.addressWidth_eq with same | same <;> rw [same] <;> rfl

theorem addCsrBridge_computedBy (sound : soc.Sound) {origin : UInt64} :
    (addCsrBridge origin).ComputedBy (addCsrBridgeExactly origin) soc := by
  refine .bind .exactly fun _ _ => .bind .exactly fun _ current => ?_
  cases current
  refine .bind_test sound.csrWindowExactly_eq ?_
  refine .bind sound.attachRegion_computedBy fun _ _ => ?_
  exact .exactly

theorem enterCpu_computedBy (sound : soc.Sound) {cpu : Cpu} :
    (enterCpu cpu).ComputedBy (enterCpuExactly cpu) soc := by
  refine .bind (.forM sound fun window _ middle sound => ⟨?_, ?_⟩) fun _ _ => .exactly
  · exact .map (.on sound.bus.declareRegion_computedBy)
  · exact sound.steps (Call.Runs.discard declareRegion_runs).path

theorem addCpu_computedBy (sound : soc.Sound) {cpu : Cpu} :
    (addCpu cpu).ComputedBy (addCpuExactly cpu) soc := by
  refine .bind .exactly fun _ checked => ?_
  split
  next => exact .bind .exactly fun _ _ => enterCpu_computedBy (sound.steps addCore_runs.path)
  next => exact enterCpu_computedBy sound

theorem addSdram_computedBy (sound : soc.Sound) {geometry : SdramGeometry} {origin : UInt64}
    {size : Option UInt64} {cacheSize : UInt64} :
    (addSdram name geometry origin size cacheSize).ComputedBy
      (addSdramExactly name geometry origin size cacheSize) soc := by
  refine .bind .exactly fun _ _ => ?_
  refine .bind (.ask SdramGeometry.size_computedBy) fun deviceSize _ => ?_
  refine .bind .exactly fun _ _ => ?_
  have located : (discard (assign .csr name none false) soc).state.Sound :=
    sound.steps (Call.Runs.discard assign_runs).path
  refine .bind (attachRegion_computedBy located) fun _ _ => ?_
  refine .bind_test (SdramGeometry.cacheSizeExactly_eq cacheSize) ?_
  exact .exactly

theorem perform_computedBy (sound : soc.Sound) (declaration : Declaration) :
    declaration.perform.ComputedBy declaration.performExactly soc := by
  cases declaration with
  | region => exact .map (.on sound.bus.declareRegion_computedBy)
  | slave => exact .map (.on sound.bus.attachSlave_computedBy)
  | ram | rom => exact .map sound.addRam_computedBy
  | csrBridge => exact .map sound.addCsrBridge_computedBy
  | cpu => exact .map sound.addCpu_computedBy
  | sdram => exact .map sound.addSdram_computedBy
  | _ => exact .exactly

theorem busInterconnect_computedBy (sound : soc.Sound) :
    soc.busInterconnect.ComputedBy soc.busInterconnectExactly := by
  refine .bind (.mapM fun slave _ => ?_) fun slaves _ => ?_
  · exact .bind sound.bus.decoder_computedBy fun _ _ => .pure
  · dsimp only
    split <;> exact .pure

/-- Pages lie in the address space of the registers, behind an origin in that of the bus. -/
theorem csrPageExactly_eq (sound : soc.csr.Sound) {base : UInt64} (low : base.toNat ≤ 2 ^ 32)
    {slot : UInt32} (below : slot < soc.csr.locations.capacity) :
    soc.csrPageExactly base name slot = some (soc.csrPage base name slot) := by
  have fits := sound.page_le below
  have small := sound.addressSpace_le.2
  have product : soc.csr.paging.toUInt64.toNat * slot.toUInt64.toNat < UInt64.size := by
    rw [UInt32.toNat_toUInt64, UInt32.toNat_toUInt64]
    change _ < 2 ^ 64
    omega
  have offset : (soc.csr.paging.toUInt64 * slot.toUInt64).toNat =
      soc.csr.paging.toNat * slot.toNat := by
    rw [UInt64.toNat_mul, Nat.mod_eq_of_lt product, UInt32.toNat_toUInt64, UInt32.toNat_toUInt64]
  have sum : base.toNat + (soc.csr.paging.toUInt64 * slot.toUInt64).toNat < UInt64.size := by
    rw [offset]
    change _ < 2 ^ 64
    omega
  simp only [csrPageExactly, Word.mul?_eq_some product, Word.add?_eq_some sum,
    Option.bind_eq_bind, Option.bind_some]
  rfl

theorem csrPages_computedBy (sound : soc.Sound) :
    soc.csrPages.ComputedBy soc.csrPagesExactly := by
  unfold csrPages csrPagesExactly
  dsimp only
  split
  next => exact .pure
  next =>
    cases found : (soc.bus.regions.get? csrRegionName).bind (·.origin) with
    | none => rfl
    | some base =>
      obtain ⟨region, stored, given⟩ := Option.bind_eq_some_iff.mp found
      have limit := sound.bus.region_limit_le stored
      rw [Region.limit, Region.first, given, Option.getD_some] at limit
      dsimp only
      -- On words the pages are a map of the locations, in exact arithmetic a loop that may end.
      rw [← List.mapM_pure]
      refine .mapM fun location member => ?_
      have below := sound.csr.locations.bounded _ _
        (LocationTable.mem_byLocation_iff.mp member)
      exact .bind_test (csrPageExactly_eq sound.csr (by omega) below) .pure

theorem finalize_computedBy (sound : soc.Sound) :
    soc.finalize.ComputedBy soc.finalizeExactly := by
  refine .bind_info ?_
  refine .bind sound.busInterconnect_computedBy fun interconnect _ => ?_
  refine .bind sound.csrPages_computedBy fun pages _ => ?_
  refine .bind .exactly fun promoted _ => ?_
  refine .bind .exactly fun _ _ => ?_
  exact .bind .exactly fun _ _ => .pure

theorem describes_exactly (sound : soc.Sound) :
    Word.shiftLeft? 1 soc.bus.addressWidth = some soc.bus.addressLimit ∧
      Word.shiftLeft? 1 soc.csr.addressWidth = some (1 <<< soc.csr.addressWidth.toUInt64) := by
  refine ⟨Word.shiftLeft?_one sound.bus.addressWidth_lt, Word.shiftLeft?_one ?_⟩
  rcases sound.csr.addressWidth_eq with same | same <;> rw [same] <;> decide

end Sound

/-- Arithmetic is exact in every run: a system is created in it, and what was declared so far
keeps the operands of whatever follows small. -/
theorem computes_exactly : (∀ config, (ofConfig config).ComputedBy (ofConfigExactly config)) ∧
    ∀ soc : Soc, soc.Reachable → soc.ComputesExactly := by
  refine ⟨ofConfig_computedBy, fun soc reached => ?_⟩
  have sound := reached.sound
  exact {
    declares := sound.perform_computedBy
    finalizes := sound.finalize_computedBy
    builds := fun _ => sound.bus.decoder_computedBy
    claims := fun _ _ => sound.bus.claimsExactly_of_decoder
    describes := sound.describes_exactly }

/-- A region ends at the first number beyond the words, where the sum of its origin and size would
wrap to zero. It is refused whether it is reserved or declared, and changes nothing. -/
theorem computes_exactly_beyond_words :
    (ofConfigExactly { bus := {
      reservedRegions := .ofList [("boot", .byOrigin 0xffffffffff000000)] } }).run =
        some (.error (.outsideAddressSpace "boot" 0xffffffffff000000 0x1000000 32)) ∧
    ∃ (soc : Soc) (map : AddressMap), soc.Reachable ∧ soc.ComputesExactly ∧
    (Declaration.region "top"
      (Region.fixed 0x8000000000000000 0x8000000000000000)).performExactly.run.run soc = some
        (.error (.outsideAddressSpace "top" 0x8000000000000000 0x8000000000000000 32), soc) ∧
    soc.finalizeExactly.run = some (.ok map) ∧
    map.csrPages.map (fun page => (page.1, page.2.origin)) = [("last", 0xf000f800)] := by
  let top : Declaration := .region "top" (Region.fixed 0x8000000000000000 0x8000000000000000)
  have evaluated : (do
      let soc ← run windowed [.location .csr "last" (some 31) false,
        .csrBridge 0xf0000000, .ram "byte" 0 1 .readWrite, .master none ⟨32⟩]
      let map ← soc.finalize
      pure ((top.perform soc).result, decide ((top.perform soc).state = soc),
        map.csrPages.map fun page => (page.1, page.2.origin)) :
      Verdict (Except Fault Reply × Bool × List (String × UInt64))).result =
        .ok (.error (.outsideAddressSpace "top" 0x8000000000000000 0x8000000000000000 32), true,
          [("last", 0xf000f800)]) := by
    decide +kernel
  simp only [Verdict.bind_ok_iff, Verdict.result_pure, Except.ok.injEq, Prod.mk.injEq,
    decide_eq_true_eq] at evaluated
  obtain ⟨soc, ran, map, finished, refused, stays, pages⟩ := evaluated
  have reached := reachable_of_run ran
  have computed := computes_exactly.2 soc reached
  refine ⟨(computes_exactly.1 _).trans (congrArg some ?_), soc, map, reached, computed,
    (computed.declares top).trans ?_, ?_, pages⟩
  · decide +kernel
  · rw [refused, stays]
  · exact computed.finalizes.trans (congrArg some finished)

end Soc

end SystemOnChip
