/-!
# Arithmetic modulo a number

Residues are natural numbers below the modulus.
-/

set_option autoImplicit false

namespace WebToken.Modular

/-- How many binary digits a number has; zero has none. -/
def bitLength (number : Nat) : Nat :=
  if number = 0 then 0 else number.log2 + 1

/-- Square-and-multiply over the lowest `bits` binary digits of the exponent,
lowest first. -/
def powFrom (modulus : Nat) : (bits : Nat) → (base exponent result : Nat) → Nat
  | 0, _, _, result => result
  | bits + 1, base, exponent, result =>
      powFrom modulus bits (base * base % modulus) (exponent / 2)
        (if exponent % 2 = 1 then result * base % modulus else result)

def pow (modulus base exponent : Nat) : Nat :=
  powFrom modulus (exponent.log2 + 1) (base % modulus) exponent (1 % modulus)

/-- The inverse of a non-zero residue of a prime. -/
def inverse (prime residue : Nat) : Nat :=
  pow prime residue (prime - 2)

def sub (modulus left right : Nat) : Nat :=
  (left + (modulus - right % modulus)) % modulus

end WebToken.Modular
