set_option autoImplicit false

namespace Inventory

structure Bounded (lo hi : Int) where
  val : Int
  lo_le : lo ≤ val
  le_hi : val ≤ hi
deriving DecidableEq

namespace Bounded

variable {lo hi : Int}

def clamp (n : Int) (bounds : lo ≤ hi) : Bounded lo hi :=
  ⟨max lo (min hi n), by omega, by omega⟩

def ofInt? (n : Int) : Option (Bounded lo hi) :=
  if h : lo ≤ n ∧ n ≤ hi then some ⟨n, h.1, h.2⟩ else none

@[ext] theorem ext {a b : Bounded lo hi} (h : a.val = b.val) : a = b := by
  cases a
  cases b
  simp_all

theorem val_clamp (n : Int) (bounds : lo ≤ hi) :
    (clamp n bounds : Bounded lo hi).val = max lo (min hi n) := rfl

theorem clamp_of_within {n : Int} (bounds : lo ≤ hi) (above : lo ≤ n) (below : n ≤ hi) :
    (clamp n bounds : Bounded lo hi) = ⟨n, above, below⟩ := by
  apply ext
  simp only [val_clamp]
  omega

@[simp] theorem ofInt?_val (a : Bounded lo hi) : ofInt? a.val = some a := by
  simp [ofInt?, a.lo_le, a.le_hi]

theorem ofInt?_eq_some_iff {n : Int} {a : Bounded lo hi} : ofInt? n = some a ↔ n = a.val := by
  constructor
  · intro h
    unfold ofInt? at h
    split at h
    · cases h
      rfl
    · cases h
  · intro h
    rw [h, ofInt?_val]

end Bounded

/-- A signed number of 32 bits: a count, hit points, or a durability in hundredths. -/
abbrev Count := Bounded (-2147483648) 2147483647

/-- A signed number of 64 bits: a price, or a number of broken slots. -/
abbrev Price := Bounded (-9223372036854775808) 9223372036854775807

abbrev Rank := Bounded 0 4294967295

abbrev Count.clamp (n : Int) : Count := Bounded.clamp n (by decide)

abbrev Price.clamp (n : Int) : Price := Bounded.clamp n (by decide)

abbrev Rank.clamp (n : Int) : Rank := Bounded.clamp n (by decide)

instance (n : Nat) : OfNat Count n := ⟨.clamp n⟩

instance (n : Nat) : OfNat Price n := ⟨.clamp n⟩

instance (n : Nat) : OfNat Rank n := ⟨.clamp n⟩

namespace Count

def plus (a b : Count) : Count := .clamp (a.val + b.val)

def minus (a b : Count) : Count := .clamp (a.val - b.val)

def atMost (a limit : Count) : Count := if limit.val < a.val then limit else a

def atLeast (a limit : Count) : Count := if a.val < limit.val then limit else a

end Count

variable {α : Type}

def insertBy (key : α → Int) (x : α) : List α → List α
  | [] => [x]
  | y :: rest => if key x ≤ key y then x :: y :: rest else y :: insertBy key x rest

/-- Sorts by `key`. Entries are inserted from the last to the first, so those with the same key
stay in their order. -/
def sortBy (key : α → Int) (entries : List α) : List α := entries.foldr (insertBy key) []

inductive Fault where
  | indexOutOfBounds (index length : Nat)
  | itemNotFound (query : String)
  | invalidMetadata (detail : String)
  | saveNotFound (name : String)
  | serialization (detail : String)
  | io (detail : String)
  | internal (detail : String)
deriving DecidableEq

def Fault.message : Fault → String
  | indexOutOfBounds index length => s!"index out of bounds: {index} (length {length})"
  | itemNotFound query => "cannot find item: " ++ query
  | invalidMetadata detail => "invalid metadata: " ++ detail
  | saveNotFound name => "save not found: " ++ name
  | serialization detail => "serialization error: " ++ detail
  | io detail => "io error: " ++ detail
  | internal detail => "internal error: " ++ detail

structure Place where
  source : Option String
  line : Option Nat
  command : Option String
deriving DecidableEq

def Place.position (place : Place) : String :=
  match place.source, place.line with
  | some source, some line => s!"at {source}:{line}"
  | some source, none => s!"at {source}"
  | none, some line => s!"at line {line}"
  | none, none => ""

def Place.message (place : Place) : String :=
  match place.command with
  | some command => s!"{place.position} in `{command}`"
  | none => place.position

end Inventory
