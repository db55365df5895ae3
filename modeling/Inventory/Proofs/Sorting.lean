import Inventory.Basic
import Mathlib.Data.List.Sort

set_option autoImplicit false

namespace Inventory

variable {α : Type}

theorem insertBy_eq_orderedInsert (key : α → Int) (x : α) (entries : List α) :
    insertBy key x entries = entries.orderedInsert (fun a b => key a ≤ key b) x := by
  induction entries with
  | nil => rfl
  | cons y rest ih => simp only [insertBy, List.orderedInsert_cons, ih]

theorem sortBy_eq_insertionSort (key : α → Int) (entries : List α) :
    sortBy key entries = entries.insertionSort fun a b => key a ≤ key b := by
  induction entries with
  | nil => rfl
  | cons x rest ih =>
    have step : sortBy key (x :: rest) = insertBy key x (sortBy key rest) := rfl
    rw [step, ih, insertBy_eq_orderedInsert, List.insertionSort_cons]

theorem sortBy_perm (key : α → Int) (entries : List α) : (sortBy key entries).Perm entries := by
  rw [sortBy_eq_insertionSort]
  exact List.perm_insertionSort _ entries

theorem sortBy_pairwise (key : α → Int) (entries : List α) :
    (sortBy key entries).Pairwise fun a b => key a ≤ key b := by
  rw [sortBy_eq_insertionSort]
  have : Std.Total fun a b => key a ≤ key b := ⟨fun a b => Int.le_total (key a) (key b)⟩
  have : IsTrans α fun a b => key a ≤ key b := ⟨fun _ _ _ => Int.le_trans⟩
  exact List.pairwise_insertionSort _ entries

theorem sortBy_of_pairwise {key : α → Int} {entries : List α}
    (sorted : entries.Pairwise fun a b => key a ≤ key b) : sortBy key entries = entries := by
  rw [sortBy_eq_insertionSort]
  exact sorted.insertionSort_eq

theorem sortBy_map {β : Type} {key : α → Int} {key' : β → Int} {f : α → β} {entries : List α}
    (same : ∀ a ∈ entries, ∀ b ∈ entries, key a ≤ key b ↔ key' (f a) ≤ key' (f b)) :
    sortBy key' (entries.map f) = (sortBy key entries).map f := by
  rw [sortBy_eq_insertionSort, sortBy_eq_insertionSort]
  exact (List.map_insertionSort _ _ f entries same).symm

theorem insertBy_behind (key : α → Int) (x y : α) (entries : List α) :
    insertBy key y (entries.takeWhile (fun z => key z ≤ key x) ++
        x :: entries.dropWhile (fun z => key z ≤ key x)) =
      (insertBy key y entries).takeWhile (fun z => key z ≤ key x) ++
        x :: (insertBy key y entries).dropWhile (fun z => key z ≤ key x) := by
  induction entries with
  | nil => by_cases less : key y ≤ key x <;> simp [insertBy, less]
  | cons z rest ih =>
    by_cases before : key z ≤ key x
    next =>
      by_cases first : key y ≤ key z
      next =>
        have less : key y ≤ key x := Int.le_trans first before
        simp [insertBy, before, first, less]
      next => simp [insertBy, before, first, ih]
    next =>
      by_cases less : key y ≤ key x
      next =>
        have first : key y ≤ key z := by omega
        simp [insertBy, before, first, less]
      next => by_cases first : key y ≤ key z <;> simp [insertBy, before, first, less]

theorem sortBy_append_singleton (key : α → Int) (entries : List α) (x : α) :
    sortBy key (entries ++ [x]) =
      (sortBy key entries).takeWhile (fun y => key y ≤ key x) ++
        x :: (sortBy key entries).dropWhile (fun y => key y ≤ key x) := by
  induction entries with
  | nil => rfl
  | cons y rest ih =>
    have step : sortBy key (y :: rest ++ [x]) = insertBy key y (sortBy key (rest ++ [x])) := rfl
    rw [step, ih, insertBy_behind]
    rfl

theorem filter_sortBy (key : α → Int) (entries : List α) (n : Int) :
    (sortBy key entries).filter (fun x => key x = n) = entries.filter fun x => key x = n := by
  have level : (entries.filter fun x => key x = n).Pairwise fun a b => key a ≤ key b := by
    apply List.pairwise_of_forall_mem_list
    simp only [List.mem_filter, decide_eq_true_eq]
    intro a first b second
    omega
  have kept : (entries.filter fun x => key x = n).Sublist (sortBy key entries) := by
    rw [sortBy_eq_insertionSort]
    exact List.sublist_insertionSort level List.filter_sublist
  have inside := kept.filter fun x => key x = n
  simp only [List.filter_filter, Bool.and_self] at inside
  have same := ((sortBy_perm key entries).filter fun x => key x = n).length_eq
  exact (inside.eq_of_length same.symm).symm

theorem takeWhile_of_pairwise {key : α → Int} {entries : List α}
    (sorted : entries.Pairwise fun a b => key a ≤ key b) (n : Int) :
    entries.takeWhile (fun x => key x ≤ n) = entries.filter fun x => key x ≤ n := by
  induction entries with
  | nil => rfl
  | cons x rest ih =>
    obtain ⟨least, later⟩ := List.pairwise_cons.1 sorted
    by_cases before : key x ≤ n
    next => simp [before, ih later]
    next =>
      have past : ∀ y ∈ rest, ¬key y ≤ n := by
        intro y member
        have := least y member
        omega
      simpa [before] using past

theorem eq_filter_append_filter {key : α → Int} {entries : List α}
    (sorted : entries.Pairwise fun a b => key a ≤ key b) (n : Int) :
    entries = (entries.filter fun x => key x < n) ++
      ((entries.filter fun x => key x = n) ++ entries.filter fun x => n < key x) := by
  induction entries with
  | nil => rfl
  | cons x rest ih =>
    obtain ⟨least, later⟩ := List.pairwise_cons.1 sorted
    have split := ih later
    have none {p : α → Bool} (past : ∀ y ∈ rest, ¬p y) : rest.filter p = [] :=
      List.filter_eq_nil_iff.2 past
    rcases Int.lt_trichotomy (key x) n with before | here | after
    next => simpa [before, Int.ne_of_lt before, Int.not_lt.2 (Int.le_of_lt before)] using split
    next =>
      have smaller : (rest.filter fun y => key y < n) = [] :=
        none fun y member => by have := least y member; simpa using by omega
      rw [smaller] at split
      simpa [here, smaller] using split
    next =>
      have smaller : (rest.filter fun y => key y < n) = [] :=
        none fun y member => by have := least y member; simpa using by omega
      have same : (rest.filter fun y => key y = n) = [] :=
        none fun y member => by have := least y member; simpa using by omega
      rw [smaller, same] at split
      simpa [after, Int.ne_of_gt after, Int.not_lt.2 (Int.le_of_lt after), smaller, same] using split

theorem lt_of_mem_dropWhile {key : α → Int} {entries : List α}
    (sorted : entries.Pairwise fun a b => key a ≤ key b) {n : Int} {x : α}
    (later : x ∈ entries.dropWhile fun y => key y ≤ n) : n < key x := by
  induction entries with
  | nil => cases later
  | cons y rest ih =>
    obtain ⟨least, tail⟩ := List.pairwise_cons.1 sorted
    by_cases before : key y ≤ n
    next => exact ih tail (by simpa [before] using later)
    next =>
      rw [List.dropWhile_cons_of_neg (by simpa using before)] at later
      cases List.mem_cons.1 later with
      | inl same => rw [same]; omega
      | inr member =>
        have := least x member
        omega

end Inventory
