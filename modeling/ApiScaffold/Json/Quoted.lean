import ApiScaffold.Text.Hex

namespace ApiScaffold.Json

def shortEscape? (c : Char) : Option Char :=
  if c = '"' then some '"'
  else if c = '\\' then some '\\'
  else if c = '\n' then some 'n'
  else if c = '\r' then some 'r'
  else if c = '\t' then some 't'
  else if c.toNat = 8 then some 'b'
  else if c.toNat = 12 then some 'f'
  else none

def unicodeEscape (unit : Nat) : List Char := '\\' :: 'u' :: Text.hex 4 unit

def unicodeEscapes (c : Char) : List Char :=
  if c.toNat < 0x10000 then unicodeEscape c.toNat
  else
    let n := c.toNat - 0x10000
    unicodeEscape (0xD800 + n / 0x400) ++ unicodeEscape (0xDC00 + n % 0x400)

def escape (c : Char) : List Char :=
  match shortEscape? c with
  | some letter => ['\\', letter]
  | none => if c.toNat < 0x20 then unicodeEscape c.toNat else [c]

def escapeAscii (c : Char) : List Char :=
  match shortEscape? c with
  | some letter => ['\\', letter]
  | none => if c.toNat < 0x20 ∨ 0x7E < c.toNat then unicodeEscapes c else [c]

def quote (s : String) : List Char := '"' :: s.toList.flatMap escape ++ ['"']

end ApiScaffold.Json
