import Inventory.Stack

set_option autoImplicit false

namespace Inventory

def normalizeName (name : String) : String :=
  String.ofList ((name.toList.filter fun c => c ≠ '*' && !Text.isBlank c).flatMap Text.lowerChar)

structure Catalog where
  items : List Item
  index : List (String × Item)
deriving DecidableEq

namespace Catalog

def empty : Catalog := ⟨[], []⟩

def isEmpty (catalog : Catalog) : Bool := catalog.items.isEmpty

def find? (catalog : Catalog) (name : String) : Option Item :=
  catalog.index.lookup (normalizeName name)

def nextRank (catalog : Catalog) : Rank := .clamp catalog.items.length

def register (catalog : Catalog) (item : Item) : Item × Catalog :=
  let key := normalizeName item.id
  match catalog.index.lookup key with
  | some known => (known, catalog)
  | none =>
    let placed := { item with rank := catalog.nextRank }
    (placed, ⟨catalog.items ++ [placed], (key, placed) :: catalog.index⟩)

def registerNamed (catalog : Catalog) (name : String) : Item × Catalog :=
  catalog.register (.named name)

def clear (catalog : Catalog) : Catalog := { catalog with items := [], index := [] }

def ofItems (items : List Item) : Catalog :=
  items.foldl (fun catalog item => (catalog.register item).2) empty

def ofNames (names : List String) : Catalog :=
  names.foldl (fun catalog name => (catalog.registerNamed name).2) empty

def listedNames (text : String) : List String :=
  let rows := (Text.lines text.toList).map Text.trim
  (rows.filter fun row => row ≠ [] && row.head? ≠ some '#').map String.ofList

def ofListText (text : String) : Catalog := ofNames (listedNames text)

end Catalog

abbrev Resolver := String → Option Stack

def Resolver.nothing : Resolver := fun _ => none

def Resolver.anything : Resolver := fun query => some (.new (.named query))

namespace Catalog

def search (catalog : Catalog) : Resolver := fun query =>
  let key := normalizeName query
  if key.isEmpty then none else (catalog.find? key).map Stack.new

def inferredItem (key : String) : Item :=
  .named (if key = normalizeName Item.masterSword then Item.masterSword else key)

def resolver (catalog : Catalog) : Resolver := fun query =>
  if catalog.isEmpty then
    let key := normalizeName query
    if key.isEmpty then none else some (.new (inferredItem key))
  else catalog.search query

end Catalog

end Inventory
