/-!
# Base 64

`decode?` reads bytes that are written four characters for three. Characters outside the alphabet are
passed over; padding ends the text once it fills a group.
-/

namespace ContractRisk.Digest

/-- the six bits that a character stands for -/
def sextet? (c : Char) : Option Nat :=
  if 'A' ≤ c ∧ c ≤ 'Z' then some (c.toNat - 65)
  else if 'a' ≤ c ∧ c ≤ 'z' then some (c.toNat - 71)
  else if '0' ≤ c ∧ c ≤ '9' then some (c.toNat + 4)
  else if c = '+' then some 62
  else if c = '/' then some 63
  else none

/-- the bytes from here on; `left` holds the bits of the `place` characters of the group so far that
are not written yet -/
def decodeGroup? (place left pads : Nat) : List Char → Option (List UInt8)
  | [] => if place = 0 then some [] else none
  | c :: r =>
    if c = '=' then
      if 2 ≤ place then
        if 4 ≤ place + (pads + 1) then some [] else decodeGroup? place left (pads + 1) r
      else decodeGroup? place left pads r
    else match sextet? c with
      | none => decodeGroup? place left pads r
      | some n =>
        match place with
        | 0 => decodeGroup? 1 n 0 r
        | 1 => (decodeGroup? 2 (n % 16) 0 r).map (.ofNat (left * 4 + n / 16) :: ·)
        | 2 => (decodeGroup? 3 (n % 4) 0 r).map (.ofNat (left * 16 + n / 4) :: ·)
        | _ => (decodeGroup? 0 0 0 r).map (.ofNat (left * 64 + n) :: ·)

def decode? (cs : List Char) : Option (List UInt8) := decodeGroup? 0 0 0 cs

end ContractRisk.Digest
