import Inventory.StateFile.Pack

set_option autoImplicit false

namespace Inventory

namespace Pack

section Numbers

theorem wordCount_succ (width : Nat) : wordCount (width + 1) = 256 * wordCount width :=
  Nat.pow_succ'

theorem wordCount_pos (width : Nat) : 0 < wordCount width := Nat.pow_pos (by omega)

@[simp] theorem length_bigEndian (width n : Nat) : (bigEndian width n).length = width := by
  induction width with
  | zero => rfl
  | succ width ih => simp [bigEndian, ih]

theorem ofBigEndian_cons (byte : UInt8) (bytes : Bytes) :
    ofBigEndian (byte :: bytes) = byte.toNat * wordCount bytes.length + ofBigEndian bytes := by
  have fold (start : Nat) : bytes.foldl (fun n byte => n * 256 + byte.toNat) start =
      start * wordCount bytes.length + ofBigEndian bytes := by
    induction bytes generalizing start with
    | nil => simp [wordCount, ofBigEndian]
    | cons first rest ih =>
      have zero := ih (0 * 256 + first.toNat)
      simp only [ofBigEndian, List.foldl_cons, List.length_cons, wordCount_succ] at *
      rw [ih, zero]
      simp only [Nat.add_mul, Nat.zero_mul, Nat.zero_add, Nat.mul_assoc, Nat.add_assoc]
  simpa [ofBigEndian] using fold (0 * 256 + byte.toNat)

theorem ofBigEndian_bigEndian (width n : Nat) :
    ofBigEndian (bigEndian width n) = n % wordCount width := by
  induction width with
  | zero => simp [bigEndian, ofBigEndian, wordCount, Nat.mod_one]
  | succ width ih =>
    have digit : (UInt8.ofNat (n / wordCount width)).toNat = n / wordCount width % 256 := by simp
    rw [bigEndian, ofBigEndian_cons, ih, length_bigEndian, digit, wordCount_succ, Nat.mul_comm 256,
      Nat.mod_mul, Nat.mul_comm, Nat.add_comm]

theorem signedOf_of_within (width : Nat) {n : Int} (low : -(wordCount width : Int) ≤ 2 * n)
    (high : 2 * n < wordCount width) :
    signedOf width (n % wordCount width).toNat = n := by
  have positive := wordCount_pos width
  have nonneg : 0 ≤ n % wordCount width := Int.emod_nonneg _ (by omega)
  rw [signedOf, Int.toNat_of_nonneg nonneg, Int.emod_bmod, Int.bmod_eq_of_le] <;> omega

end Numbers

section Readers

variable {α : Type}

theorem splitBytes?_append (bytes rest : Bytes) :
    splitBytes? bytes.length (bytes ++ rest) = some (bytes, rest) := by
  induction bytes with
  | nil => cases rest <;> rfl
  | cons byte bytes ih => simp [splitBytes?, ih]

theorem readNumber_bigEndian (width n : Nat) (rest : Bytes) :
    readNumber width (bigEndian width n ++ rest) = some (n % wordCount width, rest) := by
  have split := splitBytes?_append (bigEndian width n) rest
  rw [length_bigEndian] at split
  rw [readNumber, split, Option.map_some, ofBigEndian_bigEndian]

theorem readNumber_of_lt (width : Nat) {n : Nat} (fits : n < wordCount width) (rest : Bytes) :
    readNumber width (bigEndian width n ++ rest) = some (n, rest) := by
  rw [readNumber_bigEndian, Nat.mod_eq_of_lt fits]

theorem readUnsigned_of_lt (width : Nat) {n : Nat} (fits : n < wordCount width) (rest : Bytes) :
    readUnsigned width (bigEndian width n ++ rest) = some (.leaf (.unsigned n), rest) := by
  rw [readUnsigned, readNumber_of_lt _ fits]
  rfl

theorem readSigned_of_within (width : Nat) {n : Int} (low : -(wordCount width : Int) ≤ 2 * n)
    (high : 2 * n < wordCount width) (rest : Bytes) :
    readSigned width (encodeNegative width n ++ rest) = some (.leaf (.signed n), rest) := by
  have positive := wordCount_pos width
  have fits : (n % wordCount width).toNat < wordCount width := by
    have := Int.emod_lt_of_pos n (b := wordCount width) (by omega)
    omega
  rw [encodeNegative, readSigned, readNumber_of_lt _ fits, Option.map_some,
    signedOf_of_within _ low high]

theorem readRaw_append (make : Bytes → Pack) (bytes rest : Bytes) :
    readRaw make bytes.length (bytes ++ rest) = some (.leaf (make bytes), rest) := by
  rw [readRaw, splitBytes?_append]
  rfl

theorem readSized_of_lt (make : Bytes → Pack) (width : Nat) {bytes : Bytes}
    (fits : bytes.length < wordCount width) (rest : Bytes) :
    readSized make width (bigEndian width bytes.length ++ (bytes ++ rest)) =
      some (.leaf (make bytes), rest) := by
  rw [readSized, readNumber_of_lt _ fits, Option.bind_some, readRaw_append]

theorem readLength_of_lt (make : Nat → Head) (width : Nat) {n : Nat} (fits : n < wordCount width)
    (rest : Bytes) : readLength make width (bigEndian width n ++ rest) = some (make n, rest) := by
  rw [readLength, readNumber_of_lt _ fits]
  rfl

end Readers

section Heads

def readMarked : Bytes → Option (Head × Bytes)
  | [] => none
  | marker :: rest => readHead marker.toNat rest

theorem toNat_ofNat {n : Nat} (small : n < 256) : (UInt8.ofNat n).toNat = n := by
  simp [Nat.mod_eq_of_lt small]

theorem readHead_unsigned {marker : Nat} (high : marker < 0x80) (bytes : Bytes) :
    readHead marker bytes = some (.leaf (.unsigned marker), bytes) := by
  unfold readHead
  exact if_pos high

theorem readHead_map {n : Nat} (small : n < 16) (bytes : Bytes) :
    readHead (0x80 + n) bytes = some (.map n, bytes) := by
  unfold readHead
  rw [if_neg (by omega), if_pos (by omega), Nat.add_sub_cancel_left]

theorem readHead_array {n : Nat} (small : n < 16) (bytes : Bytes) :
    readHead (0x90 + n) bytes = some (.array n, bytes) := by
  unfold readHead
  rw [if_neg (by omega), if_neg (by omega), if_pos (by omega), Nat.add_sub_cancel_left]

theorem readHead_text {n : Nat} (small : n < 32) (bytes : Bytes) :
    readHead (0xa0 + n) bytes = readRaw .text n bytes := by
  unfold readHead
  rw [if_neg (by omega), if_neg (by omega), if_neg (by omega), if_pos (by omega),
    Nat.add_sub_cancel_left]

theorem readHead_negative {marker : Nat} (low : 0xe0 ≤ marker) (bytes : Bytes) :
    readHead marker bytes = some (.leaf (.signed (signedOf 1 marker)), bytes) := by
  unfold readHead
  rw [if_neg (by omega), if_neg (by omega), if_neg (by omega), if_neg (by omega), if_pos low]

theorem readMarked_unsigned {n : Nat} (fits : n < wordCount 8) (rest : Bytes) :
    readMarked (encodeUnsigned n ++ rest) = some (.leaf (.unsigned n), rest) := by
  unfold encodeUnsigned
  split
  next small =>
    change readHead (UInt8.ofNat n).toNat rest = _
    rw [toNat_ofNat (by omega), readHead_unsigned small]
  next =>
    split
    next small => exact readUnsigned_of_lt 1 small rest
    next =>
      split
      next small => exact readUnsigned_of_lt 2 small rest
      next =>
        split
        next small => exact readUnsigned_of_lt 4 small rest
        next => exact readUnsigned_of_lt 8 fits rest

theorem readMarked_signed {n : Int} (low : -(wordCount 8 : Int) ≤ 2 * n) (negative : n < 0)
    (rest : Bytes) : readMarked (encodeSigned n ++ rest) = some (.leaf (.signed n), rest) := by
  have one : wordCount 1 = 0x100 := rfl
  have two : wordCount 2 = 0x10000 := rfl
  have four : wordCount 4 = 0x100000000 := rfl
  unfold encodeSigned
  split
  next small =>
    have marker : (n % wordCount 1).toNat = (n + 0x100).toNat := by
      rw [one]
      omega
    have byte : encodeNegative 1 n = [UInt8.ofNat (n + 0x100).toNat] := by
      simp [encodeNegative, bigEndian, wordCount, ← marker]
    have value := @signedOf_of_within 1 n (by omega) (by omega)
    rw [marker] at value
    rw [byte]
    change readHead (UInt8.ofNat (n + 0x100).toNat).toNat rest = _
    rw [toNat_ofNat (by omega), readHead_negative (by omega), value]
  next =>
    split
    next small => exact readSigned_of_within 1 (by omega) (by omega) rest
    next =>
      split
      next small => exact readSigned_of_within 2 (by omega) (by omega) rest
      next =>
        split
        next small => exact readSigned_of_within 4 (by omega) (by omega) rest
        next => exact readSigned_of_within 8 low (by omega) rest

theorem readMarked_text {bytes : Bytes} (fits : bytes.length < wordCount 4) (rest : Bytes) :
    readMarked (encodeText bytes ++ rest) = some (.leaf (.text bytes), rest) := by
  unfold encodeText
  dsimp only
  split
  next small =>
    change readHead (UInt8.ofNat (0xa0 + bytes.length)).toNat (bytes ++ rest) = _
    rw [toNat_ofNat (by omega), readHead_text small, readRaw_append]
  next =>
    rw [List.append_assoc]
    split
    next small => exact readSized_of_lt .text 1 small rest
    next =>
      split
      next small => exact readSized_of_lt .text 2 small rest
      next => exact readSized_of_lt .text 4 fits rest

theorem readMarked_arrayHead {n : Nat} (fits : n < wordCount 4) (rest : Bytes) :
    readMarked (arrayHead n ++ rest) = some (.array n, rest) := by
  unfold arrayHead
  split
  next small =>
    change readHead (UInt8.ofNat (0x90 + n)).toNat rest = _
    rw [toNat_ofNat (by omega), readHead_array small]
  next =>
    split
    next small => exact readLength_of_lt .array 2 small rest
    next => exact readLength_of_lt .array 4 fits rest

theorem readMarked_mapHead {n : Nat} (fits : n < wordCount 4) (rest : Bytes) :
    readMarked (mapHead n ++ rest) = some (.map n, rest) := by
  unfold mapHead
  split
  next small =>
    change readHead (UInt8.ofNat (0x80 + n)).toNat rest = _
    rw [toNat_ofNat (by omega), readHead_map small]
  next =>
    split
    next small => exact readLength_of_lt .map 2 small rest
    next => exact readLength_of_lt .map 4 fits rest

end Heads

/-- Values that the format has room for, at most so deep in each other. -/
inductive Fits : Nat → Pack → Prop
  | nil {depth : Nat} : Fits depth .nil
  | bool {depth : Nat} (value : Bool) : Fits depth (.bool value)
  | unsigned {depth n : Nat} (fits : n < wordCount 8) : Fits depth (.unsigned n)
  | signed {depth : Nat} {n : Int} (low : -(wordCount 8 : Int) ≤ 2 * n) (negative : n < 0) :
    Fits depth (.signed n)
  | text {depth : Nat} {bytes : Bytes} (fits : bytes.length < wordCount 4) : Fits depth (.text bytes)
  | array {depth : Nat} {items : List Pack} (fits : items.length < wordCount 4)
    (parts : ∀ item ∈ items, Fits depth item) : Fits (depth + 1) (.array items)
  | map {depth : Nat} {entries : List (Pack × Pack)} (fits : entries.length < wordCount 4)
    (keys : ∀ entry ∈ entries, Fits depth entry.1)
    (values : ∀ entry ∈ entries, Fits depth entry.2) : Fits (depth + 1) (.map entries)

section Values

def readParts : Nat → Head × Bytes → Option (Pack × Bytes)
  | _, (.leaf value, rest) => some (value, rest)
  | depth, (.extension, rest) => if depth = 0 then none else some (.foreign, rest)
  | 0, (.array _, _) => none
  | depth + 1, (.array length, rest) =>
    (readTimes (decode depth) length rest).map fun items => (.array items.1, items.2)
  | 0, (.map _, _) => none
  | depth + 1, (.map length, rest) =>
    (readTimes (readPair (decode depth)) length rest).map fun entries => (.map entries.1, entries.2)

theorem decode_eq (depth : Nat) (bytes : Bytes) :
    decode depth bytes = (readMarked bytes).bind (readParts depth) := by
  cases bytes with
  | nil => cases depth <;> rfl
  | cons marker rest =>
    rw [decode, readMarked]
    rcases readHead marker.toNat rest with _ | ⟨_ | _ | _ | _, after⟩ <;> cases depth <;> rfl

theorem decode_of_readMarked {depth : Nat} {bytes rest : Bytes} {head : Head}
    (marked : readMarked bytes = some (head, rest)) :
    decode depth bytes = readParts depth (head, rest) := by
  rw [decode_eq, marked, Option.bind_some]

theorem readTimes_encodeItems {depth : Nat} {items : List Pack}
    (parts : ∀ item ∈ items, ∀ rest, decode depth (item.encode ++ rest) = some (item, rest))
    (rest : Bytes) :
    readTimes (decode depth) items.length (encodeItems items ++ rest) = some (items, rest) := by
  induction items with
  | nil => rfl
  | cons item items ih =>
    obtain ⟨first, others⟩ := List.forall_mem_cons.1 parts
    simp [encodeItems, readTimes, first, ih others]

theorem readTimes_encodeEntries {depth : Nat} {entries : List (Pack × Pack)}
    (keys : ∀ entry ∈ entries, ∀ rest,
      decode depth (entry.1.encode ++ rest) = some (entry.1, rest))
    (values : ∀ entry ∈ entries, ∀ rest,
      decode depth (entry.2.encode ++ rest) = some (entry.2, rest)) (rest : Bytes) :
    readTimes (readPair (decode depth)) entries.length (encodeEntries entries ++ rest) =
      some (entries, rest) := by
  induction entries with
  | nil => rfl
  | cons entry entries ih =>
    obtain ⟨key, otherKeys⟩ := List.forall_mem_cons.1 keys
    obtain ⟨value, otherValues⟩ := List.forall_mem_cons.1 values
    simp [encodeEntries, readTimes, readPair, key, value, ih otherKeys otherValues]

theorem decode_encode {depth : Nat} {pack : Pack} (fits : Fits depth pack) (rest : Bytes) :
    decode depth (pack.encode ++ rest) = some (pack, rest) := by
  induction fits generalizing rest with
  | nil => exact @decode_of_readMarked _ _ _ (.leaf .nil) rfl
  | bool value => cases value <;> exact @decode_of_readMarked _ _ _ (.leaf (.bool _)) rfl
  | unsigned fits => exact decode_of_readMarked (readMarked_unsigned fits rest)
  | signed low negative => exact decode_of_readMarked (readMarked_signed low negative rest)
  | text fits => exact decode_of_readMarked (readMarked_text fits rest)
  | array fits _ ih =>
    rw [encode, List.append_assoc, decode_of_readMarked (readMarked_arrayHead fits _), readParts,
      readTimes_encodeItems ih]
    rfl
  | map fits _ _ keys values =>
    rw [encode, List.append_assoc, decode_of_readMarked (readMarked_mapHead fits _), readParts,
      readTimes_encodeEntries keys values]
    rfl

end Values

section Starts

variable {α β : Type}

/-- What comes after a value has no influence on its reading. -/
def Local (read : Bytes → Option (α × Bytes)) : Prop :=
  ∀ bytes value rest more, read bytes = some (value, rest) →
    read (bytes ++ more) = some (value, rest ++ more)

theorem local_pure (value : α) : Local fun bytes => some (value, bytes) := by
  rintro bytes _ _ more ⟨⟩
  rfl

theorem local_none : Local fun _ => (none : Option (α × Bytes)) := by
  rintro bytes value rest more ⟨⟩

theorem Local.map {read : Bytes → Option (α × Bytes)} (first : Local read) (make : α → β) :
    Local fun bytes => (read bytes).map fun found => (make found.1, found.2) := by
  intro bytes value rest more found
  obtain ⟨⟨node, after⟩, reached, made⟩ := Option.map_eq_some_iff.1 found
  obtain ⟨rfl, rfl⟩ := Prod.mk.inj made
  simp [first _ _ _ more reached]

theorem Local.bind {read : Bytes → Option (α × Bytes)}
    {further : α × Bytes → Option (β × Bytes)} (first : Local read) (second : ∀ node, Local fun bytes => further (node, bytes)) :
    Local fun bytes => (read bytes).bind further := by
  intro bytes value rest more found
  obtain ⟨⟨node, after⟩, reached, made⟩ := Option.bind_eq_some_iff.1 found
  have longer := first _ _ _ more reached
  dsimp only
  rw [longer]
  exact second node _ _ _ more made

theorem local_splitBytes? (n : Nat) : Local (splitBytes? n) := by
  induction n with
  | zero =>
    intro bytes value rest more found
    cases bytes <;> cases found <;> cases more <;> rfl
  | succ n ih =>
    intro bytes value rest more found
    cases bytes with
    | nil => cases found
    | cons byte bytes => exact ih.map (byte :: ·) bytes value rest more found

theorem local_readNumber (width : Nat) : Local (readNumber width) :=
  (local_splitBytes? width).map ofBigEndian

theorem local_readUnsigned (width : Nat) : Local (readUnsigned width) :=
  (local_readNumber width).map fun n => Head.leaf (.unsigned n)

theorem local_readSigned (width : Nat) : Local (readSigned width) :=
  (local_readNumber width).map fun n => Head.leaf (.signed (signedOf width n))

theorem local_readRaw (make : Bytes → Pack) (length : Nat) : Local (readRaw make length) :=
  (local_splitBytes? length).map fun bytes => Head.leaf (make bytes)

theorem local_readSized (make : Bytes → Pack) (width : Nat) : Local (readSized make width) :=
  (local_readNumber width).bind fun length => local_readRaw make length

theorem local_skipExtension (length : Nat) : Local (skipExtension length) :=
  (local_splitBytes? (length + 1)).map fun _ => Head.extension

theorem local_skipSizedExtension (width : Nat) : Local (skipSizedExtension width) :=
  (local_readNumber width).bind fun length => local_skipExtension length

theorem local_readLength (make : Nat → Head) (width : Nat) : Local (readLength make width) :=
  (local_readNumber width).map make

theorem local_ite {c : Prop} [Decidable c] {yes no : Bytes → Option (α × Bytes)} (first : Local yes)
    (second : Local no) : Local fun bytes => if c then yes bytes else no bytes := by
  by_cases holds : c
  · simpa only [holds, if_true] using first
  · simpa only [holds, if_false] using second

theorem local_readHead (marker : Nat) : Local (readHead marker) := by
  unfold readHead
  refine local_ite (local_pure _) <| local_ite (local_pure _) <| local_ite (local_pure _) <|
    local_ite (local_readRaw _ _) <| local_ite (local_pure _) ?_
  intro bytes head rest more found
  -- One case for each marker that stands alone, in the order of the table.
  dsimp only at found ⊢
  split at found
  case h_1 | h_2 | h_3 => exact local_pure _ _ _ _ _ found
  case h_4 | h_5 | h_6 => exact local_readSized _ _ _ _ _ _ found
  case h_7 | h_8 | h_9 => exact local_skipSizedExtension _ _ _ _ _ found
  case h_10 | h_11 => exact local_readRaw _ _ _ _ _ _ found
  case h_12 | h_13 | h_14 | h_15 => exact local_readUnsigned _ _ _ _ _ found
  case h_16 | h_17 | h_18 | h_19 => exact local_readSigned _ _ _ _ _ found
  case h_20 | h_21 | h_22 | h_23 | h_24 => exact local_skipExtension _ _ _ _ _ found
  case h_25 | h_26 | h_27 => exact local_readSized _ _ _ _ _ _ found
  case h_28 | h_29 | h_30 | h_31 => exact local_readLength _ _ _ _ _ _ found
  case h_32 => cases found

theorem local_readMarked : Local readMarked := by
  intro bytes head rest more found
  cases bytes with
  | nil => cases found
  | cons marker bytes => exact local_readHead _ _ _ _ _ found

theorem local_readTimes {read : Bytes → Option (α × Bytes)} (part : Local read) (n : Nat) :
    Local (readTimes read n) := by
  induction n with
  | zero => exact local_pure []
  | succ n ih =>
    have unfolded : readTimes read (n + 1) = fun bytes => (read bytes).bind fun found =>
        (readTimes read n found.2).map fun items => (found.1 :: items.1, items.2) := by
      funext bytes
      rw [readTimes]
      rcases read bytes with _ | ⟨item, rest⟩ <;> rfl
    rw [unfolded]
    exact part.bind fun item => ih.map (item :: ·)

theorem local_readPair {read : Bytes → Option (α × Bytes)} (part : Local read) :
    Local (readPair read) := by
  have unfolded : readPair read = fun bytes => (read bytes).bind fun found =>
      (read found.2).map fun value => ((found.1, value.1), value.2) := by
    funext bytes
    rw [readPair]
    rcases read bytes with _ | ⟨key, rest⟩ <;> rfl
  rw [unfolded]
  exact part.bind fun key => part.map (key, ·)

theorem local_decode (depth : Nat) : Local (decode depth) := by
  have unfolded (depth : Nat) : decode depth = fun bytes => (readMarked bytes).bind (readParts depth) :=
    funext (decode_eq depth)
  induction depth with
  | zero =>
    rw [unfolded]
    refine local_readMarked.bind fun head => ?_
    cases head with
    | leaf value => exact local_pure value
    | extension | array | map => exact local_none
  | succ depth ih =>
    rw [unfolded]
    refine local_readMarked.bind fun head => ?_
    cases head with
    | leaf value => exact local_pure value
    | extension => exact local_pure Pack.foreign
    | array length => exact (local_readTimes ih length).map Pack.array
    | map length => exact (local_readTimes (local_readPair ih) length).map Pack.map

theorem decode_of_cut {depth : Nat} {pack : Pack} (fits : Fits depth pack) {kept lost : Bytes}
    (whole : kept ++ lost = pack.encode) (some : lost ≠ []) : decode depth kept = none := by
  cases found : decode depth kept with
  | none => rfl
  | some read =>
    obtain ⟨value, rest⟩ := read
    have longer := local_decode depth _ _ _ lost found
    have all := decode_encode fits []
    rw [List.append_nil, ← whole, longer] at all
    simp [some] at all

end Starts

end Pack

end Inventory
