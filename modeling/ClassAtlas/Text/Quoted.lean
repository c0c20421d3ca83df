import ClassAtlas.Unicode.Property

/-
  ClassAtlas.Text.Quoted — a text in double quotes that shows every character it holds.

  A line end, a tab, a NUL, a quote and a backslash have short escapes. A character that
  would not be seen (no printable category, or one that joins the character before it) is
  written by its number.
-/

namespace ClassAtlas.Text.Quoted

def hidden : List Unicode.Category := [.cc, .cf, .cs, .co, .cn, .zl, .zp, .zs]

def isPrintable (c : Char) : Bool := c = ' ' || !hidden.contains (Unicode.Category.of c.toNat)

def joins (c : Char) : Bool := Unicode.PropertySet.graphemeExtend.contains c.toNat

def byNumber (c : Char) : List Char := '\\' :: 'u' :: '\x7b' :: (Nat.toDigits 16 c.toNat ++ ['\x7d'])

def encodeChar (c : Char) : List Char :=
  if c = '\x00' then ['\\', '0']
  else if c = '\t' then ['\\', 't']
  else if c = '\r' then ['\\', 'r']
  else if c = '\n' then ['\\', 'n']
  else if c = '"' then ['\\', '"']
  else if c = '\\' then ['\\', '\\']
  else if joins c || !isPrintable c then byNumber c
  else [c]

def encode (s : String) : String := String.ofList ('"' :: (s.toList.flatMap encodeChar ++ ['"']))

end ClassAtlas.Text.Quoted
