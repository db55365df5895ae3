import Inventory.Text.Basic

/-!
The format of state files. A value is a marker byte with what follows it. Numbers are written with
the highest byte first and as short as possible; a reader takes them in any length.
-/

set_option autoImplicit false

namespace Inventory

inductive Pack where
  | nil
  | bool (value : Bool)
  | unsigned (n : Nat)
  | signed (n : Int)
  | text (bytes : Bytes)
  | binary (bytes : Bytes)
  /-- A value that no state file needs: a fraction or an extension. -/
  | foreign
  | array (items : List Pack)
  | map (entries : List (Pack × Pack))

namespace Pack

def wordCount (width : Nat) : Nat := Nat.pow 256 width

def bigEndian : Nat → Nat → Bytes
  | 0, _ => []
  | width + 1, n => UInt8.ofNat (n / wordCount width) :: bigEndian width n

def ofBigEndian (bytes : Bytes) : Nat := bytes.foldl (fun n byte => n * 256 + byte.toNat) 0

def signedOf (width n : Nat) : Int := Int.bmod n (wordCount width)

def encodeUnsigned (n : Nat) : Bytes :=
  if n < 0x80 then [UInt8.ofNat n]
  else if n < 0x100 then 0xcc :: bigEndian 1 n
  else if n < 0x10000 then 0xcd :: bigEndian 2 n
  else if n < 0x100000000 then 0xce :: bigEndian 4 n
  else 0xcf :: bigEndian 8 n

def encodeNegative (width : Nat) (n : Int) : Bytes :=
  bigEndian width (n % wordCount width).toNat

def encodeSigned (n : Int) : Bytes :=
  if -32 ≤ n then encodeNegative 1 n
  else if -0x80 ≤ n then 0xd0 :: encodeNegative 1 n
  else if -0x8000 ≤ n then 0xd1 :: encodeNegative 2 n
  else if -0x80000000 ≤ n then 0xd2 :: encodeNegative 4 n
  else 0xd3 :: encodeNegative 8 n

def encodeText (bytes : Bytes) : Bytes :=
  let n := bytes.length
  (if n < 32 then [UInt8.ofNat (0xa0 + n)]
    else if n < 0x100 then 0xd9 :: bigEndian 1 n
    else if n < 0x10000 then 0xda :: bigEndian 2 n
    else 0xdb :: bigEndian 4 n) ++ bytes

def encodeBinary (bytes : Bytes) : Bytes :=
  let n := bytes.length
  (if n < 0x100 then 0xc4 :: bigEndian 1 n
    else if n < 0x10000 then 0xc5 :: bigEndian 2 n
    else 0xc6 :: bigEndian 4 n) ++ bytes

def arrayHead (n : Nat) : Bytes :=
  if n < 16 then [UInt8.ofNat (0x90 + n)]
  else if n < 0x10000 then 0xdc :: bigEndian 2 n
  else 0xdd :: bigEndian 4 n

def mapHead (n : Nat) : Bytes :=
  if n < 16 then [UInt8.ofNat (0x80 + n)]
  else if n < 0x10000 then 0xde :: bigEndian 2 n
  else 0xdf :: bigEndian 4 n

mutual

def encode : Pack → Bytes
  | nil => [0xc0]
  | bool value => [if value then 0xc3 else 0xc2]
  | unsigned n => encodeUnsigned n
  | signed n => encodeSigned n
  | text bytes => encodeText bytes
  | binary bytes => encodeBinary bytes
  | foreign => [0xca, 0, 0, 0, 0]
  | array items => arrayHead items.length ++ encodeItems items
  | map entries => mapHead entries.length ++ encodeEntries entries

def encodeItems : List Pack → Bytes
  | [] => []
  | item :: rest => encode item ++ encodeItems rest

def encodeEntries : List (Pack × Pack) → Bytes
  | [] => []
  | (key, value) :: rest => encode key ++ encode value ++ encodeEntries rest

end

def splitBytes? : Nat → Bytes → Option (Bytes × Bytes)
  | 0, bytes => some ([], bytes)
  | _ + 1, [] => none
  | n + 1, byte :: rest => (splitBytes? n rest).map fun parts => (byte :: parts.1, parts.2)

inductive Head where
  | leaf (value : Pack)
  | extension
  | array (length : Nat)
  | map (length : Nat)

def readNumber (width : Nat) (bytes : Bytes) : Option (Nat × Bytes) :=
  (splitBytes? width bytes).map fun parts => (ofBigEndian parts.1, parts.2)

def readUnsigned (width : Nat) (bytes : Bytes) : Option (Head × Bytes) :=
  (readNumber width bytes).map fun read => (.leaf (.unsigned read.1), read.2)

def readSigned (width : Nat) (bytes : Bytes) : Option (Head × Bytes) :=
  (readNumber width bytes).map fun read => (.leaf (.signed (signedOf width read.1)), read.2)

def readRaw (make : Bytes → Pack) (length : Nat) (bytes : Bytes) : Option (Head × Bytes) :=
  (splitBytes? length bytes).map fun parts => (.leaf (make parts.1), parts.2)

def readSized (make : Bytes → Pack) (width : Nat) (bytes : Bytes) : Option (Head × Bytes) :=
  (readNumber width bytes).bind fun read => readRaw make read.1 read.2

def skipExtension (length : Nat) (bytes : Bytes) : Option (Head × Bytes) :=
  (splitBytes? (length + 1) bytes).map fun parts => (.extension, parts.2)

def skipSizedExtension (width : Nat) (bytes : Bytes) : Option (Head × Bytes) :=
  (readNumber width bytes).bind fun read => skipExtension read.1 read.2

def readLength (make : Nat → Head) (width : Nat) (bytes : Bytes) : Option (Head × Bytes) :=
  (readNumber width bytes).map fun read => (make read.1, read.2)

def readHead (marker : Nat) (bytes : Bytes) : Option (Head × Bytes) :=
  -- Small numbers and lengths are part of the marker itself.
  if marker < 0x80 then some (.leaf (.unsigned marker), bytes)
  else if marker < 0x90 then some (.map (marker - 0x80), bytes)
  else if marker < 0xa0 then some (.array (marker - 0x90), bytes)
  else if marker < 0xc0 then readRaw .text (marker - 0xa0) bytes
  else if 0xe0 ≤ marker then some (.leaf (.signed (signedOf 1 marker)), bytes)
  else
    match marker with
    | 0xc0 => some (.leaf .nil, bytes)
    | 0xc2 => some (.leaf (.bool false), bytes)
    | 0xc3 => some (.leaf (.bool true), bytes)
    | 0xc4 => readSized .binary 1 bytes
    | 0xc5 => readSized .binary 2 bytes
    | 0xc6 => readSized .binary 4 bytes
    | 0xc7 => skipSizedExtension 1 bytes
    | 0xc8 => skipSizedExtension 2 bytes
    | 0xc9 => skipSizedExtension 4 bytes
    | 0xca => readRaw (fun _ => .foreign) 4 bytes
    | 0xcb => readRaw (fun _ => .foreign) 8 bytes
    | 0xcc => readUnsigned 1 bytes
    | 0xcd => readUnsigned 2 bytes
    | 0xce => readUnsigned 4 bytes
    | 0xcf => readUnsigned 8 bytes
    | 0xd0 => readSigned 1 bytes
    | 0xd1 => readSigned 2 bytes
    | 0xd2 => readSigned 4 bytes
    | 0xd3 => readSigned 8 bytes
    | 0xd4 => skipExtension 1 bytes
    | 0xd5 => skipExtension 2 bytes
    | 0xd6 => skipExtension 4 bytes
    | 0xd7 => skipExtension 8 bytes
    | 0xd8 => skipExtension 16 bytes
    | 0xd9 => readSized .text 1 bytes
    | 0xda => readSized .text 2 bytes
    | 0xdb => readSized .text 4 bytes
    | 0xdc => readLength .array 2 bytes
    | 0xdd => readLength .array 4 bytes
    | 0xde => readLength .map 2 bytes
    | 0xdf => readLength .map 4 bytes
    | _ => none

def readTimes {α : Type} (read : Bytes → Option (α × Bytes)) :
    Nat → Bytes → Option (List α × Bytes)
  | 0, bytes => some ([], bytes)
  | n + 1, bytes =>
    match read bytes with
    | none => none
    | some (item, rest) =>
      (readTimes read n rest).map fun items => (item :: items.1, items.2)

def readPair {α : Type} (read : Bytes → Option (α × Bytes)) (bytes : Bytes) :
    Option ((α × α) × Bytes) :=
  match read bytes with
  | none => none
  | some (key, rest) => (read rest).map fun value => ((key, value.1), value.2)

def decode (depth : Nat) (bytes : Bytes) : Option (Pack × Bytes) :=
  match bytes with
  | [] => none
  | marker :: rest =>
    match readHead marker.toNat rest with
    | none => none
    | some (.leaf value, rest) => some (value, rest)
    | some (.extension, rest) => if depth = 0 then none else some (.foreign, rest)
    | some (.array length, rest) =>
      match depth with
      | 0 => none
      | depth + 1 =>
        (readTimes (decode depth) length rest).map fun items => (.array items.1, items.2)
    | some (.map length, rest) =>
      match depth with
      | 0 => none
      | depth + 1 =>
        (readTimes (readPair (decode depth)) length rest).map fun entries =>
          (.map entries.1, entries.2)

end Pack

end Inventory
