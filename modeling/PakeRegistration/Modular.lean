namespace PakeRegistration.Modular

def pow (modulus base : Nat) : (digits exponent : Nat) → Nat
  | 0, _ => 1 % modulus
  | digits + 1, exponent =>
      let rest := pow modulus (base * base % modulus) digits (exponent / 2)
      if exponent % 2 = 1 then base * rest % modulus else rest

end PakeRegistration.Modular
