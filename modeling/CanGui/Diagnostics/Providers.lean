import CanGui.Diagnostics.Capture
import CanGui.Diagnostics.Startup
import CanGui.IsoTp.CanIsoTp
import CanGui.Uds.Server
/-!
# Diagnostics — what the firmware answers under its identifiers

Four data identifiers: the versions and addresses, the startup snapshot,
the runtime counters and the reset reason. Every word is sent high byte
first.
-/

namespace CanGui

namespace ResetReason

/-- The flags of the reset status register, and those they are decoded
to. -/
inductive Flag where
  | pin
  | powerOn
  | brownout
  | software
  | iwdg
  | wwdg
  | lowPower
  deriving DecidableEq, Repr

/-- `RCC_RSR_…F` -/
def Flag.rsr : Flag → UInt32
  | .pin => 0x00400000
  | .powerOn => 0x00800000
  | .brownout => 0x00200000
  | .software => 0x01000000
  | .iwdg => 0x04000000
  | .wwdg => 0x10000000
  | .lowPower => 0x40000000

/-- `App_ResetReason_Flag_t` -/
def Flag.toWord : Flag → UInt32
  | .pin => 0x01
  | .powerOn => 0x02
  | .brownout => 0x04
  | .software => 0x08
  | .iwdg => 0x10
  | .wwdg => 0x20
  | .lowPower => 0x40

/-- `App_ResetReason_Snapshot_t` -/
structure Snapshot where
  decodedFlags : UInt32 := 0
  rawRsr : UInt32 := 0
  captureCount : UInt32 := 0
  deriving DecidableEq, Repr

def decode (rawRsr : UInt32) : UInt32 :=
  [Flag.pin, .powerOn, .brownout, .software, .iwdg, .wwdg, .lowPower].foldl
    (fun decoded flag => if rawRsr &&& flag.rsr ≠ 0 then decoded ||| flag.toWord else decoded) 0

/-- `App_ResetReason_Capture`, of what the register holds. -/
def capture (snapshot : Snapshot) (rawRsr : UInt32) : Snapshot where
  decodedFlags := decode rawRsr
  rawRsr
  captureCount := snapshot.captureCount + 1

end ResetReason

namespace CanUds

open UdsServer (DidReadResult)

def protocolUdsVersion : UInt8 := 2
def protocolVersion : UInt8 := 2
def protocolLogVersion : UInt8 := 1
def diagnosticRequestRxId : UInt16 := 0x7E0
def diagnosticResponseTxId : UInt16 := 0x7E8

def didProtocolInfo : UInt16 := 0xF100
def didStartupHealth : UInt16 := 0xF101
def didRuntimeHealth : UInt16 := 0xF102
def didResetReason : UInt16 := 0xF103

/-- What the other modules of the firmware report. -/
structure Ecu where
  startup : Startup.Snapshot := {}
  diagnostics : Diagnostics.Snapshot := {}
  isotp : CanIsoTp.Stats := {}
  resetReason : ResetReason.Snapshot := {}

def readProtocolInfo (capacity : Nat) : DidReadResult :=
  if capacity < 9 then
    .bufferTooSmall
  else
    .ok ([protocolUdsVersion, protocolVersion, protocolLogVersion] ++
      writeBe16 CanIsoTp.bufferCapacity.toUInt16 ++ writeBe16 diagnosticRequestRxId ++
      writeBe16 diagnosticResponseTxId)

def readStartupHealth (snapshot : Startup.Snapshot) (capacity : Nat) : DidReadResult :=
  if capacity < 21 then
    .bufferTooSmall
  else
    .ok (writeBe32 snapshot.expectedMask ++ writeBe32 snapshot.readyMask ++
      writeBe32 snapshot.failedMask ++ writeBe32 snapshot.firstFailedResource ++
      writeBe32 snapshot.firstFailureResult ++ [if snapshot.degraded then 1 else 0])

def readRuntimeHealth (diagnostics : Diagnostics.Snapshot) (isotp : CanIsoTp.Stats)
    (capacity : Nat) : DidReadResult :=
  if capacity < 28 then
    .bufferTooSmall
  else
    .ok (writeBe32 diagnostics.uptimeMs ++ writeBe32 diagnostics.latchedIssueFlags ++
      writeBe32 diagnostics.rejectedFramesTotal ++
      writeBe32 diagnostics.rxHealth.messageLostEvents ++
      writeBe32 diagnostics.canTx.queueOverflow ++ writeBe32 isotp.rxProtocolErrors ++
      writeBe32 isotp.txTransportFailures)

def readResetReason (snapshot : ResetReason.Snapshot) (capacity : Nat) : DidReadResult :=
  if capacity < 12 then
    .bufferTooSmall
  else
    .ok (writeBe32 snapshot.decodedFlags ++ writeBe32 snapshot.rawRsr ++
      writeBe32 snapshot.captureCount)

def readDid (ecu : Ecu) (did : UInt16) (capacity : Nat) : DidReadResult :=
  if did = didProtocolInfo then readProtocolInfo capacity
  else if did = didStartupHealth then readStartupHealth ecu.startup capacity
  else if did = didRuntimeHealth then readRuntimeHealth ecu.diagnostics ecu.isotp capacity
  else if did = didResetReason then readResetReason ecu.resetReason capacity
  else .notSupported

end CanUds

end CanGui
