import Inventory.Proofs.PlainNames
import Mathlib.Data.List.Nodup

set_option autoImplicit false

namespace Inventory.Catalog

inductive Change where
  | register (item : Item)
  | registerNamed (name : String)
  | clear

def change (catalog : Catalog) : Change → Catalog
  | .register item => (catalog.register item).2
  | .registerNamed name => (catalog.registerNamed name).2
  | .clear => catalog.clear

def afterChanges (changes : List Change) : Catalog := changes.foldl change empty

def offer (offered : List Item) : Change → List Item
  | .register item => offered ++ [item]
  | .registerNamed name => offered ++ [.named name]
  | .clear => []

def offeredIn (changes : List Change) : List Item := changes.foldl offer []

def firsts : List Item → List Item
  | [] => []
  | item :: rest =>
    item :: (firsts rest).filter fun other => normalizeName other.id ≠ normalizeName item.id

def ranked (items : List Item) : List Item :=
  items.mapIdx fun place item => { item with rank := .clamp place }

structure Coherent (catalog : Catalog) (offered : List Item) : Prop where
  listed : catalog.items = ranked (firsts offered)
  placed : ∀ (place : Nat) item, catalog.items[place]? = some item → place < 4294967296 →
    item.rank.val = place
  distinct : (catalog.items.map fun item => normalizeName item.id).Nodup
  found : ∀ query item, catalog.find? query = some item ↔
    item ∈ catalog.items ∧ normalizeName item.id = normalizeName query
  kept : ∀ known ∈ catalog.items, ∀ item, normalizeName item.id = normalizeName known.id →
    catalog.register item = (known, catalog)
  searched : ∀ query, normalizeName query ≠ "" →
    catalog.search query = (catalog.find? query).map Stack.new

variable {catalog : Catalog} {offered items : List Item} {item : Item} {key : String}

def namesOf (items : List Item) : List String := items.map fun item => normalizeName item.id

theorem names_ranked (items : List Item) : namesOf (ranked items) = namesOf items := by
  apply List.ext_getElem
  next => simp [namesOf, ranked]
  next => simp [namesOf, ranked]

theorem mem_names_firsts : key ∈ namesOf (firsts items) ↔ key ∈ namesOf items := by
  induction items with
  | nil => rfl
  | cons first rest ih =>
    by_cases same : key = normalizeName first.id
    next => simp [namesOf, firsts, same]
    next =>
      have later : key ∈ namesOf ((firsts rest).filter fun other =>
          normalizeName other.id ≠ normalizeName first.id) ↔ key ∈ namesOf (firsts rest) := by
        simp only [namesOf, List.mem_map, List.mem_filter, decide_eq_true_eq]
        constructor
        next => exact fun ⟨other, member, named⟩ => ⟨other, member.1, named⟩
        next => exact fun ⟨other, member, named⟩ => ⟨other, ⟨member, named ▸ same⟩, named⟩
      rw [firsts, namesOf, List.map_cons, List.mem_cons, ← namesOf, later, ih, namesOf, namesOf,
        List.map_cons, List.mem_cons]

theorem nodup_names_firsts (items : List Item) : (namesOf (firsts items)).Nodup := by
  induction items with
  | nil => exact .nil
  | cons first rest ih =>
    have fewer : (namesOf ((firsts rest).filter fun other =>
        normalizeName other.id ≠ normalizeName first.id)).Sublist (namesOf (firsts rest)) :=
      List.filter_sublist.map _
    rw [firsts, namesOf, List.map_cons, List.nodup_cons, ← namesOf]
    refine ⟨fun again => ?_, List.Nodup.sublist fewer ih⟩
    obtain ⟨other, member, same⟩ := List.mem_map.1 again
    have differ := (List.mem_filter.1 member).2
    simp [same] at differ

theorem firsts_append_singleton (items : List Item) (item : Item) :
    firsts (items ++ [item]) =
      firsts items ++ if normalizeName item.id ∈ namesOf items then [] else [item] := by
  induction items with
  | nil => rfl
  | cons first rest ih =>
    rw [List.cons_append, firsts, ih, List.filter_append, firsts, List.cons_append]
    by_cases same : normalizeName item.id = normalizeName first.id
    next => split <;> simp [namesOf, same]
    next =>
      have later : normalizeName item.id ∈ namesOf (first :: rest) ↔
          normalizeName item.id ∈ namesOf rest := by
        simp [namesOf, same]
      by_cases known : normalizeName item.id ∈ namesOf rest
      next => simp [later, known]
      next => simp [later, known, same]

theorem ranked_append_singleton (items : List Item) (item : Item) :
    ranked (items ++ [item]) = ranked items ++ [{ item with rank := .clamp items.length }] := by
  simp [ranked]

/-- The row holds what was offered, and the index finds what is in the row. -/
structure InStep (catalog : Catalog) (offered : List Item) : Prop where
  listed : catalog.items = ranked (firsts offered)
  indexed : ∀ key, catalog.index.lookup key =
    catalog.items.find? fun item => normalizeName item.id = key

theorem inStep_empty : InStep empty [] := ⟨rfl, fun _ => rfl⟩

theorem InStep.names_items (inStep : InStep catalog offered) :
    namesOf catalog.items = namesOf (firsts offered) := by
  rw [inStep.listed, names_ranked]

theorem InStep.register (inStep : InStep catalog offered) (item : Item) :
    InStep (catalog.register item).2 (offered ++ [item]) := by
  have listed := inStep.listed
  have known_iff : normalizeName item.id ∈ namesOf offered ↔
      normalizeName item.id ∈ namesOf catalog.items := by
    rw [inStep.names_items, mem_names_firsts]
  unfold Catalog.register
  dsimp only
  -- The index is asked, but what is known of names is known of the row.
  rw [inStep.indexed]
  cases known : catalog.items.find? fun other => normalizeName other.id = normalizeName item.id with
  | some first =>
    have named : normalizeName item.id ∈ namesOf catalog.items := by
      have same := List.find?_some known
      exact List.mem_map.2 ⟨first, List.mem_of_find?_eq_some known, of_decide_eq_true same⟩
    refine ⟨?_, inStep.indexed⟩
    rw [firsts_append_singleton, if_pos (known_iff.2 named), List.append_nil]
    exact listed
  | none =>
    have fresh : normalizeName item.id ∉ namesOf catalog.items := by
      intro named
      obtain ⟨first, member, same⟩ := List.mem_map.1 named
      exact List.find?_eq_none.1 known first member (decide_eq_true same)
    have length : catalog.items.length = (firsts offered).length := by
      rw [listed, ranked, List.length_mapIdx]
    constructor
    next =>
      rw [firsts_append_singleton, if_neg (mt known_iff.1 fresh), ranked_append_singleton, ← listed,
        ← length]
      rfl
    next =>
      -- The index has the new entry in front and the row has it at the end: no earlier item may have
      -- its name.
      intro key
      rw [List.find?_append, ← inStep.indexed key, List.lookup_cons]
      by_cases same : key = normalizeName item.id
      next =>
        have absent := inStep.indexed (normalizeName item.id)
        rw [known] at absent
        simp [same, absent]
      next => simp [beq_false_of_ne same, Ne.symm same]

theorem InStep.step (inStep : InStep catalog offered) (step : Change) :
    InStep (catalog.change step) (offer offered step) := by
  cases step with
  | register item => exact inStep.register item
  | registerNamed name => exact inStep.register (.named name)
  | clear => exact inStep_empty

theorem InStep.changes (inStep : InStep catalog offered) (changes : List Change) :
    InStep (changes.foldl change catalog) (changes.foldl offer offered) := by
  induction changes generalizing catalog offered with
  | nil => exact inStep
  | cons step rest ih => exact ih (inStep.step step)

theorem InStep.distinct (inStep : InStep catalog offered) : (namesOf catalog.items).Nodup := by
  rw [inStep.names_items]
  exact nodup_names_firsts offered

theorem InStep.find?_eq_some_iff (inStep : InStep catalog offered) {query : String} :
    catalog.find? query = some item ↔
      item ∈ catalog.items ∧ normalizeName item.id = normalizeName query := by
  rw [Catalog.find?, inStep.indexed]
  constructor
  next =>
    intro found
    have same := List.find?_some found
    exact ⟨List.mem_of_find?_eq_some found, of_decide_eq_true same⟩
  next =>
    intro ⟨member, same⟩
    cases found : catalog.items.find? fun item => normalizeName item.id = normalizeName query with
    | none => exact absurd (decide_eq_true same) (List.find?_eq_none.1 found item member)
    | some other =>
      have also := List.find?_some found
      have one := List.inj_on_of_nodup_map inStep.distinct (List.mem_of_find?_eq_some found) member
        ((of_decide_eq_true also).trans same.symm)
      rw [one]

theorem InStep.coherent (inStep : InStep catalog offered) : Coherent catalog offered where
  listed := inStep.listed
  placed place item there small := by
    rw [inStep.listed, ranked, List.getElem?_mapIdx] at there
    obtain ⟨origin, _, rfl⟩ := Option.map_eq_some_iff.1 there
    rw [Bounded.val_clamp]
    omega
  distinct := inStep.distinct
  found _ _ := inStep.find?_eq_some_iff
  kept known member item same := by
    have found := inStep.find?_eq_some_iff.2 ⟨member, same.symm⟩
    rw [Catalog.find?] at found
    rw [Catalog.register]
    dsimp only
    rw [found]
  searched query named := by
    have key : (normalizeName query).isEmpty = false := by
      simp [named]
    rw [search, key, if_neg Bool.false_ne_true, Catalog.find?, normalizeName_idem, Catalog.find?]

theorem ofListText_eq_afterChanges (text : String) :
    ofListText text = afterChanges ((listedNames text).map .registerNamed) := by
  rw [afterChanges, List.foldl_map]
  rfl

theorem offeredIn_registerNamed (names : List String) :
    offeredIn (names.map .registerNamed) = names.map .named := by
  have more (offered : List Item) :
      (names.map Change.registerNamed).foldl offer offered = offered ++ names.map .named := by
    induction names generalizing offered with
    | nil => simp
    | cons name rest ih => simp [offer, ih]
  exact more []

theorem catalog_coherent :
    (∀ changes, Coherent (afterChanges changes) (offeredIn changes)) ∧
      ∀ text, Coherent (ofListText text) ((listedNames text).map Item.named) := by
  have coherent (changes : List Change) : Coherent (afterChanges changes) (offeredIn changes) :=
    (inStep_empty.changes changes).coherent
  refine ⟨coherent, fun text => ?_⟩
  have listed := coherent ((listedNames text).map .registerNamed)
  rwa [offeredIn_registerNamed, ← ofListText_eq_afterChanges] at listed

theorem weapon_after_clearing :
    let changes := [.registerNamed "FoodA", .clear, .registerNamed "WeaponA", .registerNamed "BowA"]
    let weapon := { Item.named "WeaponA" with rank := 0 }
    (afterChanges changes).items[0]? = some weapon ∧
      (afterChanges changes).register (.named "wea*pon A") = (weapon, afterChanges changes) ∧
      (afterChanges changes).search " WEAPONa" = some (.new weapon) ∧
      (afterChanges changes).find? "fooda" = none := by
  intro changes weapon
  have coherent : Coherent (afterChanges changes) (offeredIn changes) := catalog_coherent.1 changes
  have first : (afterChanges changes).items[0]? = some weapon := by decide +kernel
  have member : weapon ∈ (afterChanges changes).items := List.mem_of_getElem? first
  have kept := coherent.kept weapon member (.named "wea*pon A") (by decide +kernel)
  have found := (coherent.found " WEAPONa" weapon).2 ⟨member, by decide +kernel⟩
  have searched := coherent.searched " WEAPONa" (by decide +kernel)
  rw [found] at searched
  exact ⟨first, kept, searched, by decide +kernel⟩

end Inventory.Catalog
