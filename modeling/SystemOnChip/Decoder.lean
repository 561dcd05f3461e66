import SystemOnChip.Call

/-! Address decoders. The interconnect sees word addresses: a decoder compares
the address bits above the size of its region, and claims nothing beyond the
address width of the bus. -/
namespace SystemOnChip

structure Decoder where
  originWords : UInt64
  shift : UInt32
  decodeBits : UInt32
  wordShift : UInt32
deriving DecidableEq

namespace Decoder

/-- The exponent of the bytes in a bus word; a bus narrower than a byte has no
set bit to find, which counts as 32. -/
def wordShiftOf (dataWidth : UInt32) : UInt32 :=
  let bytes := dataWidth / 8
  if bytes = 0 then 32 else UInt32.ofNat (Word.trailingZeros bytes.toNat)

/-- The size is raised to a power of two, of which the origin must be a
multiple. A region smaller than a bus word claims the whole word. -/
def ofRegion (name : String) (region : Region) (dataWidth addressWidth : UInt32) :
    Verdict Decoder :=
  match region.origin with
  | none => .fail (.unplacedRegion name region.kind)
  | some origin =>
    let size := Word.nextPowerOfTwo (max region.size 1)
    if origin &&& (size - 1) ≠ 0 then .fail (.unalignedDecoderRegion name origin size)
    else
      let wordShift := wordShiftOf dataWidth
      let sizeWords := max (size >>> wordShift.toUInt64) 1
      pure {
        originWords := origin >>> wordShift.toUInt64
        shift := UInt32.ofNat (Word.trailingZeros sizeWords.toNat)
        decodeBits := addressWidth - wordShift
        wordShift }

def matchesWord (decoder : Decoder) (wordAddress : UInt64) : Bool :=
  wordAddress >>> decoder.decodeBits.toUInt64 == 0 &&
    wordAddress >>> decoder.shift.toUInt64 == decoder.originWords >>> decoder.shift.toUInt64

def claims (decoder : Decoder) (address : UInt64) : Bool :=
  decoder.matchesWord (address >>> decoder.wordShift.toUInt64)

def wordSize (decoder : Decoder) : UInt64 := 1 <<< decoder.wordShift.toUInt64

end Decoder

end SystemOnChip
