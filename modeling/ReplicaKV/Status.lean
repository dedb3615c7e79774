/-
The status words of replies. Zero is success; every other status comes with a message. A status word that no status has
is read as `unknown`.
-/

namespace ReplicaKV

inductive Status where
  | success
  | noMagic
  | tooManyDeadNodes
  | noHello
  | notMaster
  | notFound
  | wrongCluster
  | assertionFailed
  | readOnly
  | outsideInterval
  | goingDown
  | notSupported
  | noLongerMaster
  | inconsistentRead
  | userFunctionFailure
  | unknown
deriving DecidableEq, Repr

namespace Status

def all : List Status :=
  [success, noMagic, tooManyDeadNodes, noHello, notMaster, notFound, wrongCluster, assertionFailed, readOnly,
    outsideInterval, goingDown, notSupported, noLongerMaster, inconsistentRead, userFunctionFailure, unknown]

def code : Status → UInt32
  | success => 0x00
  | noMagic => 0x01
  | tooManyDeadNodes => 0x02
  | noHello => 0x03
  | notMaster => 0x04
  | notFound => 0x05
  | wrongCluster => 0x06
  | assertionFailed => 0x07
  | readOnly => 0x08
  | outsideInterval => 0x09
  | goingDown => 0x10
  | notSupported => 0x20
  | noLongerMaster => 0x21
  | inconsistentRead => 0x80
  | userFunctionFailure => 0x81
  | unknown => 0xff

def name : Status → String
  | success => "Success"
  | noMagic => "NoMagic"
  | tooManyDeadNodes => "TooManyDeadNodes"
  | noHello => "NoHello"
  | notMaster => "NotMaster"
  | notFound => "NotFound"
  | wrongCluster => "WrongCluster"
  | assertionFailed => "AssertionFailed"
  | readOnly => "ReadOnly"
  | outsideInterval => "OutsideInterval"
  | goingDown => "GoingDown"
  | notSupported => "NotSupported"
  | noLongerMaster => "NoLongerMaster"
  | inconsistentRead => "InconsistentRead"
  | userFunctionFailure => "UserFunctionFailure"
  | unknown => "Unknown"

def ofCode (c : UInt32) : Status := (all.find? fun s => s.code = c).getD unknown

end Status

end ReplicaKV
