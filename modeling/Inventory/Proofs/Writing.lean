import Inventory.Proofs.SameTexts

set_option autoImplicit false

namespace Inventory

section Lines

open Text (isBlank byteLength)

/-- A line that holds tokens with these texts. Blanks may be anywhere between them, and something has
to keep two words apart. -/
inductive Spaced : List String → List Char → Prop
  | nil {gap : List Char} (blank : ∀ c ∈ gap, isBlank c) : Spaced [] gap
  | symbol {gap line : List Char} {c : Char} {texts : List String} (blank : ∀ c ∈ gap, isBlank c)
    (symbol : Token.isSymbol c) (rest : Spaced texts line) :
    Spaced (String.ofList [c] :: texts) (gap ++ c :: line)
  | word {gap word line : List Char} {texts : List String} (blank : ∀ c ∈ gap, isBlank c)
    (filled : word ≠ []) (plain : ∀ c ∈ word, ¬isBlank c ∧ ¬Token.isSymbol c)
    (apart : ∀ c ∈ line.head?, isBlank c ∨ Token.isSymbol c) (rest : Spaced texts line) :
    Spaced (String.ofList word :: texts) (gap ++ (word ++ line))

namespace Token

theorem scan_word {word : List Char} (plain : ∀ c ∈ word, ¬isBlank c ∧ ¬isSymbol c) (start : Nat)
    (before line : List Char) :
    scan start before (word ++ line) =
      scan (start + byteLength word) (word.reverse ++ before) line := by
  induction word generalizing start before with
  | nil => rfl
  | cons c word ih =>
    obtain ⟨⟨noBlank, noSymbol⟩, others⟩ := List.forall_mem_cons.1 plain
    rw [List.cons_append, scan, if_neg noSymbol, if_neg noBlank, ih others]
    simp [Nat.add_assoc]

theorem scan_apart {line : List Char} (apart : ∀ c ∈ line.head?, isBlank c ∨ isSymbol c)
    (start : Nat) (word : List Char) :
    scan start word line = wordEndingAt start word ++ scan start [] line := by
  cases line with
  | nil => simp [scan, wordEndingAt]
  | cons c line =>
    by_cases symbol : isSymbol c
    · simp [scan, symbol, wordEndingAt]
    · have blank : isBlank c := (apart c rfl).resolve_right symbol
      simp [scan, symbol, blank, wordEndingAt]

theorem map_text_wordEndingAt {word : List Char} (filled : word ≠ []) (stop : Nat) :
    (wordEndingAt stop word.reverse).map Token.text = [String.ofList word] := by
  cases reversed : word.reverse with
  | nil => simp_all
  | cons c rest => simp [wordEndingAt, endingAt, ← reversed]

theorem map_text_scan {texts : List String} {line : List Char} (spaced : Spaced texts line)
    (start : Nat) : (scan start [] line).map Token.text = texts := by
  induction spaced generalizing start with
  | nil blank =>
    have passed := scan_append_of_blank blank start []
    rw [List.append_nil] at passed
    simp [passed, scan, wordEndingAt]
  | symbol blank symbol _ ih =>
    rw [scan_append_of_blank blank, scan]
    simp [symbol, wordEndingAt, endingAt, ih]
  | word blank filled plain apart _ ih =>
    rw [scan_append_of_blank blank, scan_word plain, List.append_nil, scan_apart apart,
      List.map_append, map_text_wordEndingAt filled, ih]
    rfl

end Token

theorem Laid.spaced {start : Nat} {line : List Char} {tokens : List Token}
    (laid : Laid start line tokens) : Spaced (tokens.map Token.text) line := by
  induction laid with
  | nil blank => exact .nil blank
  | cons blank stands _ ih =>
    cases stands with
    | symbol symbol => exact .symbol blank symbol ih
    | word filled plain apart => exact .word blank filled plain apart ih

theorem spaced_iff {texts : List String} {line : String} :
    Spaced texts line.toList ↔ (tokenize line).map Token.text = texts := by
  constructor
  · exact fun spaced => Token.map_text_scan spaced 0
  · rintro rfl
    exact (laid_tokenize line).spaced

end Lines

namespace Text

inductive Spells : List Char → Int → Prop
  | plain {digits : List Char} (filled : digits ≠ []) (all : digits.all Char.isDigit) :
    Spells digits (Nat.ofDigitChars 10 digits 0)
  | plus {digits : List Char} (filled : digits ≠ []) (all : digits.all Char.isDigit) :
    Spells ('+' :: digits) (Nat.ofDigitChars 10 digits 0)
  | minus {digits : List Char} (filled : digits ≠ []) (all : digits.all Char.isDigit) :
    Spells ('-' :: digits) (-(Nat.ofDigitChars 10 digits 0 : Int))

section Digits

variable {digits : List Char} (filled : digits ≠ []) (all : digits.all Char.isDigit)

include filled all

theorem readNat?_of_digits : readNat? digits = some (Nat.ofDigitChars 10 digits 0) := by
  simp [readNat?, filled, all]

theorem readInt?_of_digits : readInt? digits = some (Nat.ofDigitChars 10 digits 0 : Int) := by
  have read := readNat?_of_digits filled all
  unfold readInt?
  split
  next => simp [Char.isDigit] at all
  next => simp [Char.isDigit] at all
  next =>
    rw [read]
    rfl

end Digits

theorem readNat?_eq_some {digits : List Char} {n : Nat} (read : readNat? digits = some n) :
    digits ≠ [] ∧ digits.all Char.isDigit ∧ Nat.ofDigitChars 10 digits 0 = n := by
  rw [readNat?] at read
  split at read
  next => cases read
  next digits =>
    rw [Bool.or_eq_true, not_or] at digits
    exact ⟨by simpa using digits.1, by simpa using digits.2, Option.some.inj read⟩

theorem readInt?_of_spells {text : List Char} {n : Int} (spelled : Spells text n) :
    readInt? text = some n := by
  cases spelled with
  | plain filled all => exact readInt?_of_digits filled all
  | plus filled all => simp [readInt?, readNat?_of_digits filled all]
  | minus filled all => simp [readInt?, readNat?_of_digits filled all]

theorem readInt?_eq_some_iff {text : List Char} {n : Int} :
    readInt? text = some n ↔ Spells text n := by
  constructor
  · intro read
    unfold readInt? at read
    split at read
    next digits =>
      obtain ⟨m, found, rfl⟩ : ∃ m, readNat? digits = some m ∧ -(m : Int) = n := by
        simpa [Option.bind_eq_some_iff] using read
      obtain ⟨filled, all, rfl⟩ := readNat?_eq_some found
      exact .minus filled all
    next digits =>
      obtain ⟨m, found, rfl⟩ : ∃ m, readNat? digits = some m ∧ (m : Int) = n := by
        simpa [Option.bind_eq_some_iff] using read
      obtain ⟨filled, all, rfl⟩ := readNat?_eq_some found
      exact .plus filled all
    next =>
      obtain ⟨m, found, rfl⟩ : ∃ m, readNat? text = some m ∧ (m : Int) = n := by
        simpa [Option.bind_eq_some_iff] using read
      obtain ⟨filled, all, rfl⟩ := readNat?_eq_some found
      exact .plain filled all
  · exact readInt?_of_spells

theorem toList_toString (n : Nat) : (toString n).toList = Nat.toDigits 10 n := by
  rw [Nat.toString_eq_ofList_toDigits, String.toList_ofList]

theorem all_isDigit_toDigits (n : Nat) : (Nat.toDigits 10 n).all Char.isDigit := by
  rw [List.all_eq_true]
  exact fun c inside => Nat.isDigit_of_mem_toDigits (by decide) (by decide) inside

theorem spells_toString (n : Int) : Spells (toString n).toList n := by
  cases n with
  | ofNat n =>
    have spelled := Spells.plain Nat.toDigits_ne_nil (all_isDigit_toDigits n)
    rw [Nat.ofDigitChars_ten_toDigits, ← toList_toString] at spelled
    exact spelled
  | negSucc n =>
    have spelled := Spells.minus Nat.toDigits_ne_nil (all_isDigit_toDigits (n + 1))
    rw [Nat.ofDigitChars_ten_toDigits, ← toList_toString] at spelled
    have signed : (toString (Int.negSucc n)).toList = '-' :: (toString (n + 1)).toList :=
      String.toList_append
    rw [signed]
    exact spelled

theorem isAlphabetic_of_ascii {c : Char} (ascii : c.toNat < 0x80) : isAlphabetic c = c.isAlpha := by
  rw [isAlphabetic, if_pos ascii]

theorem isUpper_iff (c : Char) : c.isUpper ↔ 65 ≤ c.toNat ∧ c.toNat ≤ 90 := by
  have bounds : c.isUpper ↔ c.val ≥ 65 ∧ c.val ≤ 90 := decide_eq_true_iff
  simp [bounds, UInt32.le_iff_toNat_le, ← Char.toNat_val]

theorem isLower_iff (c : Char) : c.isLower ↔ 97 ≤ c.toNat ∧ c.toNat ≤ 122 := by
  have bounds : c.isLower ↔ c.val ≥ 97 ∧ c.val ≤ 122 :=
    Bool.and_eq_true_iff.trans (and_congr decide_eq_true_iff decide_eq_true_iff)
  simp [bounds, UInt32.le_iff_toNat_le, ← Char.toNat_val]

theorem isAlpha_iff (c : Char) : c.isAlpha ↔ c.isUpper ∨ c.isLower := Bool.or_eq_true_iff

theorem not_isAlphabetic_of_isDigit {c : Char} (digit : c.isDigit) : ¬isAlphabetic c := by
  have bounds : 48 ≤ c.toNat ∧ c.toNat ≤ 57 := by
    simpa [Char.isDigit, UInt32.le_iff_toNat_le, ← Char.toNat_val] using digit
  rw [isAlphabetic_of_ascii (by omega), isAlpha_iff, isUpper_iff, isLower_iff]
  omega

def beginsName (text : String) : Bool := text.toList.head?.any isAlphabetic

theorem not_beginsName_of_spells {text : String} {n : Int} (spelled : Spells text.toList n) :
    ¬beginsName text := by
  rw [beginsName]
  -- The first character is a digit or a sign.
  cases whole : text.toList with
  | nil => simp
  | cons c rest =>
    rw [whole] at spelled
    rw [List.head?_cons, Option.any_some]
    cases spelled with
    | plain _ all => exact not_isAlphabetic_of_isDigit (List.all_eq_true.1 all c List.mem_cons_self)
    | plus => decide
    | minus => decide

theorem readLong?_of_spells {text : String} {n : Int} (spelled : Spells text.toList n) :
    readLong? text = (Bounded.ofInt? n : Option Price).map Bounded.val := by
  rw [readLong?, readInt?_of_spells spelled, Option.bind_some]

theorem readLong?_of_beginsName {text : String} (begins : beginsName text) :
    readLong? text = none := by
  cases read : readInt? text.toList with
  | none => rw [readLong?, read, Option.bind_none, Option.map_none]
  | some n => exact absurd begins (not_beginsName_of_spells (readInt?_eq_some_iff.1 read))

theorem toLower_of_not_isUpper {c : Char} (other : ¬c.isUpper) : c.toLower = c :=
  dif_neg fun bounds => other (decide_eq_true bounds)

theorem toLower_of_not_isAlphabetic {c : Char} (other : ¬isAlphabetic c) : c.toLower = c := by
  apply toLower_of_not_isUpper
  intro upper
  have bounds := (isUpper_iff c).1 upper
  rw [isAlphabetic_of_ascii (by omega)] at other
  exact other ((isAlpha_iff c).2 (.inl upper))

theorem not_sameWord_of_letter {word text : String}
    (letter : word.toList.head?.any fun c => isAlphabetic c.toLower) (other : ¬beginsName text) :
    ¬sameWord word text := by
  intro same
  have lowered : word.toList.map Char.toLower = text.toList.map Char.toLower := by
    simpa [sameWord] using same
  cases first : word.toList with
  | nil => simp [first] at letter
  | cons c rest =>
    cases second : text.toList with
    | nil => simp [first, second] at lowered
    | cons d rest' =>
      simp only [first, second, List.map_cons, List.cons.injEq] at lowered
      simp only [beginsName, second, List.head?_cons, Option.any_some] at other
      simp [first, lowered.1, toLower_of_not_isAlphabetic other, other] at letter

end Text

def maxLong : Int := 9223372036854775807

structure Figure where
  text : String
  value : Price
  spelled : Text.Spells text.toList value.val

structure Name where
  text : String
  begins : Text.beginsName text

inductive WrittenValue where
  | word (name : Name)
  | number (figure : Figure)

inductive WrittenAmount where
  | count (figure : Figure)
  | all

structure WrittenItem where
  amount : WrittenAmount
  words : List Name
  pairs : List (Name × WrittenValue)

def Figure.ofText (text : String) (value : Price)
    (read : Text.readInt? text.toList = some value.val) : Figure :=
  ⟨text, value, Text.readInt?_eq_some_iff.1 read⟩

theorem Figure.not_beginsName (figure : Figure) : ¬Text.beginsName figure.text :=
  Text.not_beginsName_of_spells figure.spelled

theorem Figure.readLong?_text (figure : Figure) :
    Text.readLong? figure.text = some figure.value.val := by
  rw [Text.readLong?_of_spells figure.spelled, Bounded.ofInt?_val, Option.map_some]

theorem Text.readLong?_eq_some_iff {text : String} {n : Int} :
    Text.readLong? text = some n ↔ ∃ figure : Figure, figure.text = text ∧ figure.value.val = n := by
  constructor
  · intro read
    obtain ⟨long, found, rfl⟩ := Option.map_eq_some_iff.1 read
    obtain ⟨m, whole, fits⟩ := Option.bind_eq_some_iff.1 found
    obtain rfl := Bounded.ofInt?_eq_some_iff.1 fits
    exact ⟨.ofText text long whole, rfl, rfl⟩
  · rintro ⟨figure, rfl, rfl⟩
    exact figure.readLong?_text

namespace WrittenValue

def text : WrittenValue → String
  | word name => name.text
  | number figure => figure.text

/-- What the value counts as. Of a number only the value counts. -/
def said : WrittenValue → String
  | word name => name.text
  | number figure => toString figure.value.val

end WrittenValue

namespace WrittenAmount

def text : WrittenAmount → String
  | count figure => figure.text
  | all => "all"

def number? : WrittenAmount → Option Int
  | count figure => some figure.value.val
  | all => none

def isAll : WrittenAmount → Bool
  | count _ => false
  | all => true

end WrittenAmount

namespace WrittenItem

def pairTexts (pair : Name × WrittenValue) : List String := [pair.1.text, "=", pair.2.text]

def pairSaid (pair : Name × WrittenValue) : Metadata.Pair := (pair.1.text, some pair.2.said)

def morePairTexts (pairs : List (Name × WrittenValue)) : List String :=
  pairs.flatMap fun pair => "," :: pairTexts pair

def clauseTexts : List (Name × WrittenValue) → List String
  | [] => []
  | first :: rest => "[" :: (pairTexts first ++ (morePairTexts rest ++ ["]"]))

def texts (item : WrittenItem) : List String :=
  item.amount.text :: (item.words.map Name.text ++ clauseTexts item.pairs)

def query (item : WrittenItem) : String := String.join (item.words.map Name.text)

end WrittenItem

end Inventory
