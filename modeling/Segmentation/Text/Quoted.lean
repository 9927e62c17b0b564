import Segmentation.Text.PrintableTable

/-!
# Text in quotes

Text and bytes in quotes, as they appear inside collections. Quotes are single unless the text holds a
single quote and no double one. Only the quote in use, the backslash and what cannot be shown are escaped.
-/

namespace Segmentation.Text.Quoted

/-- The `width` low hexadecimal digits of `n`, in small letters. -/
def hexDigits : (width : Nat) → (n : Nat) → List Char
  | 0, _ => []
  | width + 1, n => hexDigits width (n / 16) ++ [Nat.digitChar (n % 16)]

/-- The escape of a character by its code point, in the shortest of the three widths that fits. -/
def escapeCode (n : Nat) : List Char :=
  if n < 0x100 then '\\' :: 'x' :: hexDigits 2 n
  else if n < 0x10000 then '\\' :: 'u' :: hexDigits 4 n
  else '\\' :: 'U' :: hexDigits 8 n

/-- One character between quotes of the kind `quote`; `shown` tells which ones need no escape. -/
def encodeChar (quote : Char) (shown : Char → Bool) (c : Char) : List Char :=
  if c = quote || c = '\\' then ['\\', c]
  else if c = '\t' then ['\\', 't']
  else if c = '\n' then ['\\', 'n']
  else if c = '\r' then ['\\', 'r']
  else if shown c then [c]
  else escapeCode c.toNat

/-- The quote that text is put in. -/
def quoteFor (cs : List Char) : Char :=
  if cs.contains '\'' && !cs.contains '"' then '"' else '\''

/-- Quoted text, with `shown` telling which characters need no escape. -/
def encodeList (shown : Char → Bool) (cs : List Char) : List Char :=
  let quote := quoteFor cs
  quote :: (cs.flatMap (encodeChar quote shown) ++ [quote])

/-- The text in quotes. -/
def text (s : String) : String :=
  String.ofList (encodeList isPrintable s.toList)

/-- Bytes in quotes after the letter b: ASCII is shown, other bytes are escaped by number. -/
def bytes (bs : List UInt8) : String :=
  let cs := bs.map fun b => Char.ofNat b.toNat
  String.ofList ('b' :: encodeList (fun c => 32 ≤ c.toNat && c.toNat < 127) cs)

end Segmentation.Text.Quoted
