import Inventory.Proofs.Order

set_option autoImplicit false

namespace Inventory.Slots

def refillMaterials : Slots → List Stack → Slots
  | [], _ => []
  | stack :: rest, materials =>
    if isMaterial stack then
      match materials with
      | [] => stack :: refillMaterials rest []
      | next :: later => next :: refillMaterials rest later
    else stack :: refillMaterials rest materials

def rankedMaterials (slots : Slots) : List Stack :=
  sortBy (fun stack => stack.item.rank.val) (slots.filter isMaterial)

variable {slots : Slots} {materials : List Stack}

section Positions

theorem writeAll_cons (stack : Stack) (rest : Slots) (writes : List (Nat × Stack)) :
    writeAll (stack :: rest) (writes.map (Prod.map (· + 1) id)) = stack :: rest.writeAll writes := by
  induction writes generalizing rest with
  | nil => rfl
  | cons write later ih => exact ih (rest.set write.1 write.2)

theorem materialPositions_cons (stack : Stack) (rest : Slots) :
    materialPositions (stack :: rest) =
      (if isMaterial stack then [0] else []) ++ rest.materialPositions.map (· + 1) := by
  unfold materialPositions
  rw [List.zipIdx_cons, List.zipIdx_succ, List.filter_cons, List.filter_map]
  by_cases material : isMaterial stack <;> simp [material, Function.comp_def]

theorem filterMap_materialPositions (slots : Slots) :
    (slots.materialPositions.filterMap fun i => slots[i]?) = slots.filter isMaterial := by
  induction slots with
  | nil => rfl
  | cons stack rest ih =>
    have later : ((materialPositions rest).map (· + 1)).filterMap (fun i => (stack :: rest)[i]?) =
        rest.filter isMaterial := by
      rw [List.filterMap_map, ← ih]
      rfl
    rw [materialPositions_cons, List.filterMap_append, later]
    by_cases material : isMaterial stack <;> simp [material]

theorem writeAll_materialPositions (slots : Slots) (materials : List Stack) :
    slots.writeAll (slots.materialPositions.zip materials) = slots.refillMaterials materials := by
  induction slots generalizing materials with
  | nil => rfl
  | cons stack rest ih =>
    -- All positions but the first are one further on, so the writes there are those to the rest.
    have further (next : Stack) (later : List Stack) :
        writeAll (next :: rest) (((materialPositions rest).map (· + 1)).zip later) =
          next :: refillMaterials rest later := by
      rw [List.zip_map_left, writeAll_cons, ih]
    rw [materialPositions_cons]
    unfold refillMaterials
    split
    next =>
      cases materials with
      | nil => rw [← ih []]; simp [writeAll]
      | cons next later => exact further next later
    next => exact further stack materials

theorem sortMaterials_eq (slots : Slots) :
    slots.sortMaterials = slots.refillMaterials slots.rankedMaterials := by
  rw [sortMaterials, writeAll_materialPositions, filterMap_materialPositions, rankedMaterials]

end Positions

theorem rankedMaterials_perm (slots : Slots) :
    slots.rankedMaterials.Perm (slots.filter isMaterial) :=
  sortBy_perm _ _

theorem length_rankedMaterials (slots : Slots) :
    slots.rankedMaterials.length = slots.countP isMaterial :=
  slots.rankedMaterials_perm.length_eq.trans List.countP_eq_length_filter.symm

theorem isMaterial_of_mem_rankedMaterials {stack : Stack} (member : stack ∈ slots.rankedMaterials) :
    isMaterial stack :=
  (List.mem_filter.1 (slots.rankedMaterials_perm.mem_iff.1 member)).2

theorem refillMaterials_perm (slots : Slots) (materials : List Stack)
    (enough : materials.length = slots.countP isMaterial) :
    (slots.refillMaterials materials).Perm (slots.filter (!isMaterial ·) ++ materials) := by
  induction slots generalizing materials with
  | nil => simp_all [refillMaterials]
  | cons stack rest ih =>
    by_cases material : isMaterial stack
    next =>
      cases materials with
      | nil => simp [material] at enough
      | cons next later =>
        have fewer : later.length = rest.countP isMaterial := by simpa [material] using enough
        simp only [refillMaterials, material, if_true, Bool.not_true, Bool.false_eq_true,
          not_false_eq_true, List.filter_cons_of_neg]
        exact ((ih later fewer).cons next).trans List.perm_middle.symm
    next =>
      have same : materials.length = rest.countP isMaterial := by simpa [material] using enough
      simp only [refillMaterials, material, if_false, Bool.not_false, List.filter_cons_of_pos,
        Bool.false_eq_true, List.cons_append]
      exact (ih materials same).cons stack

theorem sortMaterials_perm (slots : Slots) : slots.sortMaterials.Perm slots := by
  -- The sorted materials come back into the gaps that they leave.
  rw [sortMaterials_eq]
  refine (refillMaterials_perm slots _ slots.length_rankedMaterials).trans ?_
  exact (List.perm_append_comm.trans (slots.rankedMaterials_perm.append_right _)).trans
    (List.filter_append_perm isMaterial slots)

theorem sortKey_of_isMaterial {a b : Stack} (first : isMaterial a) (second : isMaterial b) :
    a.sortKey = b.sortKey := by
  have left : a.kind = .material := by simpa [isMaterial] using first
  have right : b.kind = .material := by simpa [isMaterial] using second
  simp [Stack.sortKey, left, right]

theorem map_sortKey_refillMaterials (slots : Slots) (materials : List Stack)
    (all : ∀ stack ∈ materials, isMaterial stack) :
    (slots.refillMaterials materials).map Stack.sortKey = slots.map Stack.sortKey := by
  induction slots generalizing materials with
  | nil => rfl
  | cons stack rest ih =>
    unfold refillMaterials
    split
    next material =>
      cases materials with
      | nil => simp only [List.map_cons, ih [] all]
      | cons next later =>
        have same := sortKey_of_isMaterial (all next List.mem_cons_self) material
        simp only [List.map_cons, same, ih later fun other h => all other (List.mem_cons_of_mem _ h)]
    next => simp only [List.map_cons, ih materials all]

theorem sorted_sortMaterials {slots : Slots} (sorted : slots.Sorted) :
    slots.sortMaterials.Sorted := by
  rw [sortMaterials_eq]
  exact sorted.of_map_eq
    (map_sortKey_refillMaterials slots _ fun _ => isMaterial_of_mem_rankedMaterials)

theorem getElem?_refillMaterials {i : Nat} {stack : Stack} (here : slots[i]? = some stack)
    (other : ¬isMaterial stack) : (slots.refillMaterials materials)[i]? = some stack := by
  induction slots generalizing i materials with
  | nil => simp at here
  | cons first rest ih =>
    cases i with
    | zero =>
      obtain rfl : first = stack := by simpa using here
      simp [refillMaterials, other]
    | succ i =>
      have later : rest[i]? = some stack := by simpa using here
      unfold refillMaterials
      split
      next => cases materials <;> simp [ih later]
      next => simp [ih later]

theorem filter_refillMaterials (enough : materials.length = slots.countP isMaterial)
    (all : ∀ stack ∈ materials, isMaterial stack) :
    (slots.refillMaterials materials).filter isMaterial = materials := by
  induction slots generalizing materials with
  | nil =>
    obtain rfl : materials = [] := by simpa using enough
    rfl
  | cons stack rest ih =>
    by_cases material : isMaterial stack
    next =>
      cases materials with
      | nil => simp [material] at enough
      | cons next later =>
        obtain ⟨first, others⟩ := List.forall_mem_cons.1 all
        have fewer : later.length = rest.countP isMaterial := by simpa [material] using enough
        simp [refillMaterials, material, first, ih fewer others]
    next =>
      have same : materials.length = rest.countP isMaterial := by simpa [material] using enough
      simp [refillMaterials, material, ih same all]

theorem refillMaterials_filter (slots : Slots) :
    slots.refillMaterials (slots.filter isMaterial) = slots := by
  induction slots with
  | nil => rfl
  | cons stack rest ih => by_cases material : isMaterial stack <;> simp [refillMaterials, material, ih]

theorem filter_sortMaterials (slots : Slots) :
    slots.sortMaterials.filter isMaterial = slots.rankedMaterials := by
  rw [sortMaterials_eq]
  exact filter_refillMaterials slots.length_rankedMaterials
    fun _ => isMaterial_of_mem_rankedMaterials

theorem sortMaterials_sortMaterials (slots : Slots) :
    slots.sortMaterials.sortMaterials = slots.sortMaterials := by
  -- The materials are in order already, so each comes back into its own gap.
  have settled : slots.sortMaterials.rankedMaterials = slots.sortMaterials.filter isMaterial := by
    rw [rankedMaterials, filter_sortMaterials]
    exact sortBy_of_pairwise (sortBy_pairwise _ _)
  rw [sortMaterials_eq, settled, refillMaterials_filter]

theorem sortMaterials_sorts_materials (slots : Slots) :
    let materials := slots.filter isMaterial
    let sorted := slots.sortMaterials.filter isMaterial
    slots.sortMaterials.length = slots.length ∧
      (∀ (i : Nat) (stack : Stack), slots[i]? = some stack → stack.kind ≠ .material →
        slots.sortMaterials[i]? = some stack) ∧
      sorted.Perm materials ∧
      sorted.Pairwise (fun a b => a.item.rank.val ≤ b.item.rank.val) ∧
      (∀ rank : Int, (sorted.filter fun stack => stack.item.rank.val = rank) =
        materials.filter fun stack => stack.item.rank.val = rank) ∧
      slots.sortMaterials.sortMaterials = slots.sortMaterials ∧
      (slots.Sorted → slots.sortMaterials.Sorted) := by
  intro materials sorted
  have same : sorted = slots.rankedMaterials := filter_sortMaterials slots
  refine ⟨(sortMaterials_perm slots).length_eq, fun i stack here other => ?others, ?perm, ?order,
    ?stable, sortMaterials_sortMaterials slots, sorted_sortMaterials⟩
  case others =>
    rw [sortMaterials_eq]
    exact getElem?_refillMaterials here (by simpa [isMaterial] using other)
  case perm => exact same ▸ slots.rankedMaterials_perm
  case order => exact same ▸ sortBy_pairwise _ _
  case stable => exact fun rank => same ▸ filter_sortBy _ _ rank

theorem sortMaterials_of_two_apples :
    let sword := Stack.new (Item.new "WeaponA" .weapon)
    let apple := Stack.new { Item.new "MaterialA" .material with rank := 1 }
    let pear := Stack.new { Item.new "MaterialB" .material with rank := 2 }
    let slots : Slots := [pear, sword, apple.withValue 2, apple]
    let row : Slots := [sword, pear, apple]
    slots.sortMaterials = [apple.withValue 2, sword, apple, pear] ∧
      slots[1]? = some sword ∧ sword.kind ≠ .material ∧ slots.sortMaterials[1]? = some sword ∧
      row.Sorted ∧ row.sortMaterials.Sorted := by
  intro sword apple pear slots row
  have other : sword.kind ≠ .material := by decide
  have sorted : row.Sorted := by decide
  obtain ⟨-, kept, -⟩ := sortMaterials_sorts_materials slots
  obtain ⟨-, -, -, -, -, -, stays⟩ := sortMaterials_sorts_materials row
  exact ⟨rfl, rfl, other, kept 1 sword rfl other, sorted, stays sorted⟩

end Inventory.Slots
