import Sealing.FixedBytes
/-!
# Keys
-/

namespace Sealing

structure Key where
  bytes : FixedBytes 32
deriving DecidableEq

namespace Key

def length : Nat := 32

/-- Reads a key from its bytes, which must be `Key.length` many. -/
def ofList (bytes : List UInt8) : Except Error Key :=
  Key.mk <$> FixedBytes.ofList 32 "key" bytes

def toList (key : Key) : List UInt8 := key.bytes.toList

/-- The text for diagnosis, without the key. -/
def describe (key : Key) : String := Text.applied "Key" key.bytes.describe

end Key

end Sealing
