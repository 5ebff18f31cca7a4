import CrashCapture.Text.Digits
import CrashCapture.Text.Printable
import CrashCapture.Text.Utf8

/-! Text in quotation marks, as messages show a value that was not understood. A quote or
a backslash takes a backslash before it, four controls have a letter of their own, and what
cannot be shown is written as its code point.
-/

namespace CrashCapture.Text

def codePoint (c : Char) : List Char :=
  ['\\', 'u', '\x7b'] ++ Digits.numeral 16 c.toNat ++ ['\x7d']

def quotedChar (c : Char) : List Char :=
  if c = '\x00' then ['\\', '0']
  else if c = '\t' then ['\\', 't']
  else if c = '\r' then ['\\', 'r']
  else if c = '\n' then ['\\', 'n']
  else if c = '"' || c = '\\' then ['\\', c]
  else if isPrintable c && !isExtending c then [c]
  else codePoint c

/-- The text between quotation marks. -/
def quoted (text : String) : String :=
  String.ofList ('"' :: text.toList.flatMap quotedChar ++ ['"'])

/-- A byte by its two digits. -/
def hexEscape (byte : UInt8) : List Char :=
  ['\\', 'x'] ++ Digits.padLeft '0' 2 (Digits.numeral 16 byte.toNat)

/-- A byte of ASCII as it stands, or escaped when it is a control, a quote or a
backslash. -/
def quotedAscii (byte : UInt8) : List Char :=
  let c := Char.ofNat byte.toNat
  if c = '\t' then ['\\', 't']
  else if c = '\r' then ['\\', 'r']
  else if c = '\n' then ['\\', 'n']
  else if c = '\'' || c = '"' || c = '\\' then ['\\', c]
  else if 0x20 ≤ byte && byte < 0x7F then [c]
  else hexEscape byte

def quotedPiece : Utf8.Piece → List Char
  | .char c => if c.toNat < 0x80 then quotedAscii c.toUInt8 else quotedChar c
  | .invalid bytes => bytes.flatMap hexEscape

/-- Bytes that need not be text, between quotation marks: what encodes a character is shown
as that, and other bytes by their digits. -/
def quotedBytes (bytes : List UInt8) : String :=
  String.ofList ('"' :: (Utf8.pieces bytes).flatMap quotedPiece ++ ['"'])

end CrashCapture.Text
