import CrashCapture.Text.Digits

/-! Names that a compiler mangled, in readable form. A mangled name is a list of elements,
each behind its length, with escapes for the characters that linkers do not take; a name of
any other form is shown as it is.
-/

namespace CrashCapture.Image.Mangled

/-- What an optimizer writes in front of the number of a copy. -/
def copyMark : List Char := ".llvm.".toList

def isCopyNumber (text : List Char) : Bool :=
  text.all fun c => ('A' ≤ c ∧ c ≤ 'F') || c.isDigit || c = '@'

/-- Leaves out the number of a copy, behind the first mark for one. -/
def withoutCopyNumber : List Char → List Char
  | [] => []
  | c :: rest =>
    if copyMark.isPrefixOf (c :: rest) then
      if isCopyNumber ((c :: rest).drop copyMark.length) then [] else c :: rest
    else c :: withoutCopyNumber rest

/-- What stands behind the mark that mangled names start with. -/
def body? : List Char → Option (List Char)
  | '_' :: 'Z' :: 'N' :: rest => some rest
  | 'Z' :: 'N' :: rest => some rest
  | '_' :: '_' :: 'Z' :: 'N' :: rest => some rest
  | _ => none

/-- The length in front of an element, and what stands behind it. -/
def elementLength (text : List Char) : Nat × List Char :=
  let digits := text.takeWhile Char.isDigit
  (Digits.ofLittleEndian 10 (digits.reverse.map fun c => (Digits.digitValue c).getD 0),
    text.dropWhile Char.isDigit)

/-- The elements up to the letter that ends them, and what follows it. -/
def elements? (text : List Char) : Option (List (List Char) × List Char) :=
  match text with
  | [] => none
  | c :: rest =>
    if c = 'E' then some ([], rest)
    else if _h : c.isDigit then
      let sized := elementLength (c :: rest)
      if sized.2.length ≤ sized.1 then none
      else
        (elements? (sized.2.drop sized.1)).map fun more =>
          (sized.2.take sized.1 :: more.1, more.2)
    else none
termination_by text.length
decreasing_by
  have := (List.dropWhile_sublist Char.isDigit (l := rest)).length_le
  simp only [elementLength, List.dropWhile_cons, _h, if_true, List.length_drop,
    List.length_cons]
  omega

/-- Whether an element is the hash that tells instances of a name apart. -/
def isHash : List Char → Bool
  | 'h' :: digits => digits.all fun c => (Digits.digitIn 16 c).isSome
  | _ => false

/-- The escapes that have names. -/
def namedEscapes : List (String × Char) :=
  [("SP", '@'), ("BP", '*'), ("RF", '&'), ("LT", '<'), ("GT", '>'), ("LP", '('),
    ("RP", ')'), ("C", ',')]

def isLowerHex (c : Char) : Bool := ('0' ≤ c ∧ c ≤ '9') || ('a' ≤ c ∧ c ≤ 'f')

/-- The character of a code point in small hexadecimal digits; there is none for surrogates
and controls. -/
def codePoint? (digits : List Char) : Option Char :=
  if digits.all isLowerHex then
    match Digits.read 16 0x110000 digits with
    | .error _ => none
    | .ok code =>
      if (0xD800 ≤ code ∧ code < 0xE000) ∨ code < 0x20 ∨ (0x7F ≤ code ∧ code < 0xA0) then
        none
      else some (Char.ofNat code)
  else none

/-- What an escape stands for. -/
def escape? (name : List Char) : Option Char :=
  match namedEscapes.lookup (String.ofList name), name with
  | some c, _ => some c
  | none, 'u' :: digits => codePoint? digits
  | none, _ => none

/-- Undoes the escapes of an element: two periods stand for two colons, and a name between
dollar signs for a character. From an escape of no meaning on, the rest stays as it is. -/
def unescape (text : List Char) : List Char :=
  match text with
  | [] => []
  | '.' :: '.' :: rest => ':' :: ':' :: unescape rest
  | '$' :: rest =>
    match rest.dropWhile (· ≠ '$') with
    | [] => '$' :: rest
    | _ :: _ =>
      match escape? (rest.takeWhile (· ≠ '$')) with
      | none => '$' :: rest
      | some c => c :: unescape (rest.drop ((rest.takeWhile (· ≠ '$')).length + 1))
  | c :: rest => c :: unescape rest
termination_by text.length
decreasing_by
  all_goals simp only [List.length_cons, List.length_drop]
  all_goals omega

/-- An element as it is shown; an underscore that only guards an escape is left out. -/
def elementText : List Char → List Char
  | '_' :: '$' :: rest => unescape ('$' :: rest)
  | text => unescape text

/-- The elements that are shown: a hash in the last place is not. -/
def shownElements (elements : List (List Char)) : List (List Char) :=
  match elements.getLast? with
  | none => []
  | some last => if isHash last then elements.dropLast else elements

/-- What may follow a mangled name: words that a period introduces. -/
def isTrailer : List Char → Bool
  | [] => true
  | c :: rest => c = '.' && (c :: rest).all fun c => 0x21 ≤ c.toNat && c.toNat < 0x7F

def readable (name : List Char) : List Char :=
  let name := withoutCopyNumber name
  match body? name with
  | none => name
  | some body =>
    if body.all (·.toNat < 0x80) then
      match elements? body with
      | none => name
      | some (elements, trailer) =>
        if isTrailer trailer then
          [':', ':'].intercalate ((shownElements elements).map elementText) ++ trailer
        else name
    else name

/-- The readable form of a name. -/
def demangle (name : String) : String := String.ofList (readable name.toList)

end CrashCapture.Image.Mangled
