import PakeRegistration.PrimeGroup
import PakeRegistration.Ristretto255.Encoding

namespace PakeRegistration.Ristretto255

def generatorOctets : Bytes :=
  [0xe2, 0xf2, 0xae, 0x0a, 0x6a, 0xbc, 0x4e, 0x71, 0xa8, 0x84, 0xa9, 0x61, 0xc5, 0x00, 0x51, 0x5f,
    0x58, 0xe3, 0x0b, 0x6a, 0xa5, 0x82, 0xdd, 0x8d, 0xb6, 0xa6, 0x59, 0x45, 0xe0, 0x8d, 0x2d, 0x76]

def generator : Point :=
  (Encoding.decode? generatorOctets).getD Point.identity

def group : PrimeGroup where
  isElement octets := (Encoding.decode? octets).isSome
  ofUniform octets := Encoding.encode (Encoding.ofUniform octets)
  multiple? n octets := (Encoding.decode? octets).map fun p => Encoding.encode (p.multiple 255 n)
  baseMultiple n := Encoding.encode (generator.multiple 255 n)

end PakeRegistration.Ristretto255
