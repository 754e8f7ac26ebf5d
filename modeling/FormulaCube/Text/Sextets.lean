import FormulaCube.Text.Basic

/-!
# Bytes written in letters

Sixty-four letters stand for six bits each, so that four of them give three bytes. Other characters do
not count, apart from the marks that fill up the last four.

* `Text.sextets` — bytes in letters, read.
* `Text.utf8?` — a text from bytes.
-/

namespace FormulaCube.Text

/-- The six bits of a letter. -/
def sextet? (c : Char) : Option Nat :=
  if 'A' ≤ c && c ≤ 'Z' then some (c.toNat - 'A'.toNat)
  else if 'a' ≤ c && c ≤ 'z' then some (c.toNat - 'a'.toNat + 26)
  else if '0' ≤ c && c ≤ '9' then some (c.toNat - '0'.toNat + 52)
  else if c = '+' then some 62
  else if c = '/' then some 63
  else none

/-- Goes on reading. Of the last four letters `count` have come, and `bits` are those bits of them that
belong to the next byte; `fill` marks have come since the last letter. Nothing if the last letters are
no whole bytes. -/
def sextetsFrom : (count bits fill : Nat) → Text → Option (List UInt8)
  | count, _, _, [] => if count = 0 then some [] else none
  | count, bits, fill, c :: t =>
    if c = '=' then
      if 2 ≤ count && 4 ≤ count + fill + 1 then some []
      else sextetsFrom count bits (if 2 ≤ count then fill + 1 else fill) t
    else
      match sextet? c with
      | none => sextetsFrom count bits fill t
      | some six =>
        match count with
        | 0 => sextetsFrom 1 six 0 t
        | 1 => (sextetsFrom 2 (six % 16) 0 t).map (UInt8.ofNat (bits * 4 + six / 16) :: ·)
        | 2 => (sextetsFrom 3 (six % 4) 0 t).map (UInt8.ofNat (bits * 16 + six / 4) :: ·)
        | _ => (sextetsFrom 0 0 0 t).map (UInt8.ofNat (bits * 64 + six) :: ·)

/-- The bytes that letters stand for. -/
def sextets (t : Text) : Option (List UInt8) := sextetsFrom 0 0 0 t

/-- The text that bytes are, in UTF-8. -/
def utf8? (bytes : List UInt8) : Option Text :=
  (String.fromUTF8? ⟨bytes.toArray⟩).map String.toList

end FormulaCube.Text
