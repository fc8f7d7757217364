/-!
# Machine words

The largest numbers of the words in which counts, sizes and times are kept.
-/

namespace RpcGateway.Word

def max16 : Nat := 65535

def max32 : Nat := 4294967295

def max64 : Nat := 18446744073709551615

/-- The largest number of a signed word of 64 bits; the least is one further from zero. -/
def maxSigned64 : Nat := 9223372036854775807

/-- The largest number of a signed word of 32 bits. -/
def maxSigned32 : Nat := 2147483647

end RpcGateway.Word
