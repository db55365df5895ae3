import Inventory.Text.ClusterTables

/-!
Clusters: the characters that a reader takes for one, such as a letter with its marks or a picture
made of several. The rules are those of Unicode for extended grapheme clusters.
-/

set_option autoImplicit false

namespace Inventory.Text

inductive Role where
  | carriageReturn
  | lineFeed
  | control
  | extender
  | joiner
  | spacing
  | prepended
  | flag
  | pictograph
  -- The parts of a Korean syllable, and syllables without and with a final consonant.
  | initial
  | vowel
  | final
  | openSyllable
  | closedSyllable
  | other
deriving DecidableEq

def markRole (c : Char) : Role :=
  if controls.contains c then .control
  else if extendersBasic.contains c || extendersSupplementary.contains c then .extender
  else if spacingMarks.contains c then .spacing
  else if prepended.contains c then .prepended
  else if pictographs.contains c then .pictograph
  else .other

def syllableParts : List (Nat × Nat × Role) :=
  [(0x1100, 0x115F, .initial), (0xA960, 0xA97C, .initial),
   (0x1160, 0x11A7, .vowel), (0xD7B0, 0xD7C6, .vowel),
   (0x16D63, 0x16D63, .vowel), (0x16D67, 0x16D6A, .vowel),
   (0x11A8, 0x11FF, .final), (0xD7CB, 0xD7FB, .final)]

/-- The role in a Korean syllable. Whole syllables come in groups of 28, the first of which has no
final consonant. -/
def syllableRole? (code : Nat) : Option Role :=
  if 0xAC00 ≤ code && code ≤ 0xD7A3 then
    some (if (code - 0xAC00) % 28 = 0 then .openSyllable else .closedSyllable)
  else (syllableParts.find? fun part => part.1 ≤ code && code ≤ part.2.1).map fun part => part.2.2

def roleOf (c : Char) : Role :=
  if c = '\r' then .carriageReturn
  else if c = '\n' then .lineFeed
  else if 0x20 ≤ c.toNat && c.toNat < 0x7F then .other
  else if c.toNat = 0x200D then .joiner
  else if 0x1F1E6 ≤ c.toNat && c.toNat ≤ 0x1F1FF then .flag
  else (syllableRole? c.toNat).getD (markRole c)

namespace Role

def isAlone : Role → Bool
  | carriageReturn | lineFeed | control => true
  | _ => false

def clings : Role → Bool
  | extender | joiner | spacing => true
  | _ => false

def continues : Role → Role → Bool
  | initial, initial | initial, vowel | initial, openSyllable | initial, closedSyllable => true
  | vowel, vowel | vowel, final | openSyllable, vowel | openSyllable, final => true
  | final, final | closedSyllable, final => true
  | _, _ => false

end Role

inductive Chain where
  | none
  | begun
  | linked
deriving DecidableEq

structure Trail where
  last : Role
  conjunct : Chain
  picture : Chain
  halfFlag : Bool
deriving DecidableEq

namespace Trail

def start : Trail := ⟨.control, .none, .none, false⟩

def conjunctAfter (chain : Chain) (c : Char) (role : Role) : Chain :=
  if conjunctConsonants.contains c then .begun
  else if chain = .none then .none
  else if conjunctLinkers.contains c then .linked
  -- A non-joiner extends, but a conjunct does not reach over it.
  else if (role = .extender && c.toNat ≠ 0x200C) || role = .joiner then chain
  else .none

def pictureAfter : Chain → Role → Chain
  | _, .pictograph => .begun
  | .begun, .extender => .begun
  | .begun, .joiner => .linked
  | _, _ => .none

def after (trail : Trail) (c : Char) : Trail :=
  let role := roleOf c
  ⟨role, conjunctAfter trail.conjunct c role, pictureAfter trail.picture role,
    role = .flag && !trail.halfFlag⟩

def joins (trail : Trail) (c : Char) : Bool :=
  let role := roleOf c
  if trail.last = .carriageReturn && role = .lineFeed then true
  else if trail.last.isAlone || role.isAlone then false
  else
    role.clings || trail.last = .prepended || trail.last.continues role ||
      (trail.conjunct = .linked && conjunctConsonants.contains c) ||
      (trail.picture = .linked && role = .pictograph) || (trail.halfFlag && role = .flag)

end Trail

def clustersAfter (trail : Trail) (cluster : List Char) : List Char → List (List Char)
  | [] => [cluster.reverse]
  | c :: rest =>
    if trail.joins c then clustersAfter (trail.after c) (c :: cluster) rest
    else cluster.reverse :: clustersAfter (trail.after c) [c] rest

def clusters : List Char → List (List Char)
  | [] => []
  | c :: rest => clustersAfter (Trail.start.after c) [c] rest

/-- What was typed so far, last first: the characters, and the lengths of the clusters that can be
taken back. -/
structure Typed where
  text : List Char
  lengths : List Nat

def dropBytes : Nat → List Char → List Char
  | 0, text => text
  | _ + 1, [] => []
  | n + 1, c :: rest => dropBytes (n + 1 - c.utf8Size) rest

namespace Typed

def empty : Typed := ⟨[], []⟩

def takeBack (typed : Typed) : Typed :=
  match typed.lengths with
  | [] => typed
  | length :: lengths => ⟨dropBytes length typed.text, lengths⟩

/-- Adds a cluster. Its length is kept in one byte, so of a very long cluster only a part can be
taken back. -/
def add (typed : Typed) (cluster : List Char) : Typed :=
  ⟨cluster.reverse ++ typed.text, byteLength cluster % 256 :: typed.lengths⟩

def press (typed : Typed) (cluster : List Char) : Typed :=
  if cluster = ['\x08'] then typed.takeBack else typed.add cluster

end Typed

def withoutBackspaces (line : String) : String :=
  String.ofList ((clusters line.toList).foldl Typed.press .empty).text.reverse

end Inventory.Text
