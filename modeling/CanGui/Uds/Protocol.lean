import CanGui.Common.Words
/-!
# UDS — the contract the two sides share

Service and session identifiers, the routine the update uses, and the
negative response codes.
-/

namespace CanGui

namespace Uds

def serviceDiagnosticSessionControl : UInt8 := 0x10
def serviceReadDataByIdentifier : UInt8 := 0x22
def serviceRoutineControl : UInt8 := 0x31
def serviceRequestDownload : UInt8 := 0x34
def serviceTransferData : UInt8 := 0x36
def serviceRequestTransferExit : UInt8 := 0x37
def serviceTesterPresent : UInt8 := 0x3E

def positiveResponseOffset : UInt8 := 0x40
def negativeResponseService : UInt8 := 0x7F

def sessionDefault : UInt8 := 0x01
def sessionProgramming : UInt8 := 0x02
def sessionExtendedDiagnostic : UInt8 := 0x03

def routineEraseInactiveSlot : UInt16 := 0xFF00
def downloadDataFormatIdentifier : UInt8 := 0x00
def downloadAddressLengthFormatIdentifier : UInt8 := 0x44
def downloadMaxBlockLength : Nat := 258

inductive NegativeResponseCode where
  | serviceNotSupported
  | subfunctionNotSupported
  | incorrectMessageLength
  | responseTooLong
  | conditionsNotCorrect
  | requestSequenceError
  | requestOutOfRange
  | securityAccessDenied
  | uploadDownloadNotAccepted
  | transferDataSuspended
  | generalProgrammingFailure
  | wrongBlockSequenceCounter
  | serviceNotSupportedInActiveSession
  deriving DecidableEq, Repr

def NegativeResponseCode.toByte : NegativeResponseCode → UInt8
  | serviceNotSupported => 0x11
  | subfunctionNotSupported => 0x12
  | incorrectMessageLength => 0x13
  | responseTooLong => 0x14
  | conditionsNotCorrect => 0x22
  | requestSequenceError => 0x24
  | requestOutOfRange => 0x31
  | securityAccessDenied => 0x33
  | uploadDownloadNotAccepted => 0x70
  | transferDataSuspended => 0x71
  | generalProgrammingFailure => 0x72
  | wrongBlockSequenceCounter => 0x73
  | serviceNotSupportedInActiveSession => 0x7F

end Uds

end CanGui
