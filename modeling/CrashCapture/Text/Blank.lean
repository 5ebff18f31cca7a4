/-! White space in the sense of the Unicode property, trimming, and letter case within
ASCII. Names of settings are compared after both.
-/

namespace CrashCapture.Text

/-- The characters with the Unicode property White_Space. -/
def isBlank (c : Char) : Bool :=
  let n := c.toNat
  (9 ≤ n ∧ n ≤ 13) || n = 0x20 || n = 0x85 || n = 0xA0 || n = 0x1680
    || (0x2000 ≤ n ∧ n ≤ 0x200A) || n = 0x2028 || n = 0x2029 || n = 0x202F || n = 0x205F
    || n = 0x3000

def trimChars (text : List Char) : List Char :=
  ((text.dropWhile isBlank).reverse.dropWhile isBlank).reverse

/-- Removes white space at both ends. -/
def trim (text : String) : String := String.ofList (trimChars text.toList)

/-- Lower case of the letters A to Z; every other character stays. -/
def lowerAscii (text : String) : String := String.ofList (text.toList.map Char.toLower)

/-- Cuts a text at every separator; the pieces never contain it, and there is one more of
them than there are separators. -/
def splitChars (separator : Char) : List Char → List (List Char)
  | [] => [[]]
  | c :: rest =>
    match splitChars separator rest with
    | [] => [[c]]
    | piece :: pieces =>
      if c = separator then [] :: piece :: pieces else (c :: piece) :: pieces

def split (separator : Char) (text : String) : List String :=
  (splitChars separator text.toList).map String.ofList

/-- The bytes of a text in UTF-8. -/
def bytes (text : String) : List UInt8 := text.toUTF8.toList

end CrashCapture.Text
