/-!
# Bytes written with 64 characters

Four characters hold three bytes. What is none of the 64 characters is skipped. A group of two or three
characters must be filled up with equals signs, and ends the bytes.
-/

namespace Segmentation.Text.Base64

/-- The six bits of a character. -/
def sextet? (c : Char) : Option Nat :=
  if 'A' ≤ c ∧ c ≤ 'Z' then some (c.toNat - 65)
  else if 'a' ≤ c ∧ c ≤ 'z' then some (c.toNat - 71)
  else if '0' ≤ c ∧ c ≤ '9' then some (c.toNat + 4)
  else if c = '+' then some 62
  else if c = '/' then some 63
  else none

/-- The whole bytes in a group of six-bit numbers. -/
def groupBytes : List Nat → List UInt8
  | a :: b :: rest =>
    UInt8.ofNat (a * 4 + b / 16) :: match rest with
      | [] => []
      | c :: rest => UInt8.ofNat (b % 16 * 16 + c / 4) :: match rest with
        | [] => []
        | d :: _ => [UInt8.ofNat (c % 4 * 64 + d)]
  | _ => []

/-- Reads on after the characters of an unfinished group and `pads` equals signs behind them. -/
def decodeFrom (group : List Nat) (pads : Nat) : List Char → Option (List UInt8)
  | [] => if group.isEmpty then some [] else none
  | c :: cs =>
    if c = '=' then
      if 2 ≤ group.length then
        if 4 ≤ group.length + pads + 1 then some (groupBytes group)
        else decodeFrom group (pads + 1) cs
      else decodeFrom group pads cs
    else match sextet? c with
      | none => decodeFrom group pads cs
      | some n =>
        if group.length = 3 then (decodeFrom [] 0 cs).map (groupBytes (group ++ [n]) ++ ·)
        else decodeFrom (group ++ [n]) 0 cs

/-- The bytes that text stands for. -/
def decode? (cs : List Char) : Option (List UInt8) :=
  decodeFrom [] 0 cs

end Segmentation.Text.Base64
