import BusLink.Hash.Sha256

set_option autoImplicit false

namespace BusLink.Hash

/-- A key as a block: a longer key is replaced by its digest, a shorter one filled with zeros. -/
def keyBlock (key : List UInt8) : List UInt8 :=
  let short := if 64 < key.length then Sha256.digest key else key
  short ++ List.replicate (64 - short.length) 0

def hmac (key message : List UInt8) : List UInt8 :=
  let block := keyBlock key
  let inner := Sha256.digest (block.map (· ^^^ 0x36) ++ message)
  Sha256.digest (block.map (· ^^^ 0x5c) ++ inner)

end BusLink.Hash
