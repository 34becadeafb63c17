import PakeRegistration.Hash.Sha512

namespace PakeRegistration.Hmac

def blockKey (key : Bytes) : Bytes :=
  let short := if Sha512.blockSize < key.length then Sha512.hash key else key
  short ++ Bytes.zeros (Sha512.blockSize - short.length)

def mac (key message : Bytes) : Bytes :=
  let inner := (blockKey key).map (· ^^^ 0x36)
  let outer := (blockKey key).map (· ^^^ 0x5C)
  Sha512.hash (outer ++ Sha512.hash (inner ++ message))

@[simp] theorem mac_length (key message : Bytes) : (mac key message).length = Sha512.digestSize := rfl

end PakeRegistration.Hmac
