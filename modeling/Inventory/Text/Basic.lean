set_option autoImplicit false

namespace Inventory

abbrev Bytes := List UInt8

namespace Text

abbrev Ranges := List (Nat × Nat)

def Ranges.contains (ranges : Ranges) (c : Char) : Bool :=
  ranges.any fun range => range.1 ≤ c.toNat && c.toNat ≤ range.2

/-- The Unicode property White_Space. -/
def blanks : Ranges :=
  [(0x9, 0xD), (0x20, 0x20), (0x85, 0x85), (0xA0, 0xA0), (0x1680, 0x1680), (0x2000, 0x200A),
   (0x2028, 0x2029), (0x202F, 0x202F), (0x205F, 0x205F), (0x3000, 0x3000)]

def isBlank (c : Char) : Bool := blanks.contains c

def trimStart (text : List Char) : List Char := text.dropWhile isBlank

def trimEnd (text : List Char) : List Char := (text.reverse.dropWhile isBlank).reverse

def trim (text : List Char) : List Char := trimStart (trimEnd text)

def trimmed (text : String) : String := String.ofList (trim text.toList)

def dropReturn (line : List Char) : List Char :=
  if line.getLast? = some '\r' then line.dropLast else line

/-- The pieces between line feeds as lines. The last piece was not ended: it is kept as it stands,
and only if there is something in it. -/
def linesOfPieces : List (List Char) → List (List Char)
  | [] => []
  | [last] => if last.isEmpty then [] else [last]
  | line :: next :: rest => dropReturn line :: linesOfPieces (next :: rest)

def lines (text : List Char) : List (List Char) := linesOfPieces (text.splitOnP (· == '\n'))

def byteLength : List Char → Nat
  | [] => 0
  | c :: rest => c.utf8Size + byteLength rest

def utf8 (text : String) : Bytes := text.toByteArray.data.toList

def ofUtf8? (bytes : Bytes) : Option String := String.fromUTF8? ⟨bytes.toArray⟩

theorem ofUtf8?_utf8 (text : String) : ofUtf8? (utf8 text) = some text := by
  simp only [ofUtf8?, utf8, Array.toArray_toList, String.fromUTF8?]
  exact dif_pos text.isValidUTF8

def readNat? (digits : List Char) : Option Nat :=
  if digits.isEmpty || !digits.all Char.isDigit then none
  else some (Nat.ofDigitChars 10 digits 0)

def readInt? : List Char → Option Int
  | '-' :: digits => (readNat? digits).map fun n => -(n : Int)
  | '+' :: digits => (readNat? digits).map fun n => (n : Int)
  | digits => (readNat? digits).map fun n => (n : Int)

def alignRight (width : Nat) (text : String) : String :=
  "".pushn ' ' (width - text.length) ++ text

def paddedDigits (width n : Nat) : String :=
  let digits := toString n
  "".pushn '0' (width - digits.length) ++ digits

def sign (n : Int) : String := if n < 0 then "-" else ""

def hundredths (n : Int) : String :=
  let whole := n.natAbs / 100
  let part := n.natAbs % 100
  if part = 0 then s!"{sign n}{whole}"
  else if part % 10 = 0 then s!"{sign n}{whole}.{part / 10}"
  else s!"{sign n}{whole}.{paddedDigits 2 part}"

def roundDiv (num den : Nat) : Nat :=
  let quotient := num / den
  let rest := num % den
  if 2 * rest > den || (2 * rest == den && quotient % 2 == 1) then quotient + 1 else quotient

/-- The exponent of two that brings a quotient of moderate numbers to 53 binary digits. What is shown
is rounded from these digits, so they settle a five behind the last place. -/
def doubleScale (num den : Nat) : Nat :=
  let scale := 52 + den.log2 - num.log2
  if num <<< scale < den <<< 52 then scale + 1 else scale

def doubleDigits (num den : Nat) : Nat := roundDiv (num <<< doubleScale num den) den

def decimalsLeft (hundreds : Nat) : Nat :=
  if hundreds < 100 then 4 else 4 - (toString (hundreds / 100)).length

def fourDigits (n : Int) : String :=
  let size := n.natAbs
  if size % 100 = 0 then s!"{sign n}{size / 100}"
  else
    let decimals := decimalsLeft size
    -- Rounding may carry into a new digit; the number of decimals stays.
    let one := Nat.pow 10 decimals
    let rounded := roundDiv (doubleDigits size 100 * one) (1 <<< doubleScale size 100)
    let whole := rounded / one
    if decimals = 0 then s!"{sign n}{whole}"
    else s!"{sign n}{whole}.{paddedDigits decimals (rounded % one)}"

end Text

end Inventory
