import RpcGateway.Text.Pieces
import RpcGateway.Text.Utf8

/-!
# Percent escapes

A percent sign and two hexadecimal digits stand for one octet; any other percent sign stands for
itself.
-/

namespace RpcGateway.Text

def isHexByte (b : UInt8) : Bool := isHexDigit (Char.ofNat b.toNat)

def hexByteValue (b : UInt8) : Nat := hexValue (Char.ofNat b.toNat)

def percentDecode : Bytes → Bytes
  | [] => []
  | 0x25 :: a :: b :: r =>
    if isHexByte a && isHexByte b then
      UInt8.ofNat (hexByteValue a * 16 + hexByteValue b) :: percentDecode r
    else 0x25 :: percentDecode (a :: b :: r)
  | b :: r => b :: percentDecode r

end RpcGateway.Text
