import CanGui.Common.Words
/-!
# CRC-32

The reflected CRC-32 that the boot-control, fault and watchdog records
each carry a copy of.
-/

namespace CanGui

/-- One bit of the reflected CRC-32. -/
def crcBit (crc : UInt32) : UInt32 :=
  (crc >>> 1) ^^^ (0xEDB88320 &&& (0 - (crc &&& 1)))

def crcByte (crc : UInt32) (byte : UInt8) : UInt32 :=
  Nat.repeat crcBit 8 (crc ^^^ byte.toUInt32)

@[irreducible] def calculateCrc32 (data : Bytes) (length : Nat) : UInt32 :=
  ~~~((data.take length).foldl crcByte 0xFFFFFFFF)

/-- The CRC reads the bytes it covers. -/
theorem calculateCrc32_congr {data data' : Bytes} {length : Nat}
    (h : data.take length = data'.take length) :
    calculateCrc32 data length = calculateCrc32 data' length := by
  unfold calculateCrc32
  rw [h]

end CanGui
