import ContractRisk.Text.Numeral

/-!
# UTF-8

`decode` turns bytes into characters, or gives the bytes left at the first place where no character
is encoded; `encode` goes back. Overlong forms, surrogates and code points above U+10FFFF encode
nothing. `faultText` and `faultMessage` say what is wrong with bytes that are no text.
-/

namespace ContractRisk.Text.Utf8

def isTail (b : UInt8) : Bool := 0x80 ≤ b && b ≤ 0xBF

def pack (lead : Nat) (tails : List UInt8) : Char :=
  Char.ofNat (tails.foldl (fun n b => n * 64 + (b.toNat - 0x80)) lead)

/-- can `b` follow the lead byte `a` of three? -/
def isSecondOfThree (a b : UInt8) : Bool :=
  if a = 0xE0 then 0xA0 ≤ b && b ≤ 0xBF
  else if a = 0xED then 0x80 ≤ b && b ≤ 0x9F
  else isTail b

/-- can `b` follow the lead byte `a` of four? -/
def isSecondOfFour (a b : UInt8) : Bool :=
  if a = 0xF0 then 0x90 ≤ b && b ≤ 0xBF
  else if a = 0xF4 then 0x80 ≤ b && b ≤ 0x8F
  else isTail b

/-- the characters up to the first fault, last one first, and the bytes from the fault on -/
def decodeOnto (acc : List Char) : List UInt8 → List Char × List UInt8
  | [] => (acc, [])
  | a :: r =>
    if a < 0x80 then decodeOnto (Char.ofNat a.toNat :: acc) r
    else match r with
      | [] => (acc, [a])
      | b :: r =>
        if 0xC2 ≤ a && a ≤ 0xDF && isTail b then
          decodeOnto (pack (a.toNat - 0xC0) [b] :: acc) r
        else match r with
          | [] => (acc, [a, b])
          | c :: r =>
            if 0xE0 ≤ a && a ≤ 0xEF && isSecondOfThree a b && isTail c then
              decodeOnto (pack (a.toNat - 0xE0) [b, c] :: acc) r
            else match r with
              | [] => (acc, [a, b, c])
              | d :: r =>
                if 0xF0 ≤ a && a ≤ 0xF4 && isSecondOfFour a b && isTail c && isTail d then
                  decodeOnto (pack (a.toNat - 0xF0) [b, c, d] :: acc) r
                else (acc, a :: b :: c :: d :: r)

def decode (bs : List UInt8) : Except (List UInt8) (List Char) :=
  match decodeOnto [] bs with
  | (cs, []) => .ok cs.reverse
  | (_, rest) => .error rest

/-- how many bytes at the front belong to no character; none if more bytes could complete one -/
def badLength? : List UInt8 → Option Nat
  | [] => none
  | a :: r =>
    if 0xC2 ≤ a && a ≤ 0xDF then if r.isEmpty then none else some 1
    else if 0xE0 ≤ a && a ≤ 0xEF then
      match r with
      | [] => none
      | b :: r => if !isSecondOfThree a b then some 1 else if r.isEmpty then none else some 2
    else if 0xF0 ≤ a && a ≤ 0xF4 then
      match r with
      | [] => none
      | b :: r =>
        if !isSecondOfFour a b then some 1
        else match r with
          | [] => none
          | c :: r => if !isTail c then some 2 else if r.isEmpty then none else some 3
    else some 1

/-- what is wrong with bytes that are no text -/
def faultText (bs : List UInt8) : String :=
  match decode bs with
  | .ok _ => ""
  | .error rest =>
    let place := natText (bs.length - rest.length)
    match badLength? rest with
    | some n => "invalid utf-8 sequence of " ++ natText n ++ " bytes from index " ++ place
    | none => "incomplete utf-8 byte sequence from index " ++ place

/-- the same in the words of a decoder -/
def faultMessage (bs : List UInt8) : String :=
  match decode bs with
  | .ok _ => ""
  | .error rest =>
    "'utf-8' codec can't decode byte 0x" ++ String.ofList (hexPadded 2 (rest.headD 0).toNat) ++
      " in position " ++ natText (bs.length - rest.length) ++ ": invalid utf-8"

def encodeChar (c : Char) : List UInt8 :=
  let n := c.toNat
  let tail (shift : Nat) : UInt8 := .ofNat (0x80 + (n >>> shift) % 64)
  if n < 0x80 then [.ofNat n]
  else if n < 0x800 then [.ofNat (0xC0 + n / 64), tail 0]
  else if n < 0x10000 then [.ofNat (0xE0 + n / 4096), tail 6, tail 0]
  else [.ofNat (0xF0 + n / 262144), tail 12, tail 6, tail 0]

def encode (cs : List Char) : List UInt8 := cs.flatMap encodeChar

def bytes (s : String) : List UInt8 := encode s.toList

theorem bytes_append (s t : String) : bytes (s ++ t) = bytes s ++ bytes t := by
  unfold bytes encode
  rw [String.toList_append, List.flatMap_append]

/-- a text that is given by its characters is not taken apart again; a literal is such a text -/
theorem bytes_ofList (cs : List Char) : bytes (String.ofList cs) = encode cs := by
  unfold bytes
  rw [String.toList_ofList]

end ContractRisk.Text.Utf8
