import ClassAtlas.Record

/-
  ClassAtlas.Archive.CodePage — code page 437, in which old archives name their entries.
-/

namespace ClassAtlas.Archive.CodePage

/-- The characters of the bytes from 80 on. -/
def upperHalf : Array Char :=
  ("ÇüéâäàåçêëèïîìÄÅÉæÆôöòûùÿÖÜ¢£¥₧ƒ" ++
   "áíóúñÑªº¿⌐¬½¼¡«»░▒▓│┤╡╢╖╕╣║╗╝╜╛┐" ++
   "└┴┬├─┼╞╟╚╔╩╦╠═╬╧╨╤╥╙╘╒╓╫╪┘┌█▄▌▐▀" ++
   "αßΓπΣσµτΦΘΩδ∞φε∩≡±≥≤⌠⌡÷≈°∙·√ⁿ²■\u00A0").toList.toArray

def charOf (b : UInt8) : Char := if b < 0x80 then Char.ofNat b.toNat else (upperHalf[b.toNat - 0x80]?).getD '?'

def decode (bytes : Bytes) : String := String.ofList (bytes.map charOf)

end ClassAtlas.Archive.CodePage
