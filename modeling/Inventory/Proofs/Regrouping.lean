import Inventory.Proofs.ItemLists

set_option autoImplicit false

namespace Inventory

namespace WrittenItem

def allName : Name := ⟨"all", by decide⟩

def extend (item : WrittenItem) (words : List Name) : WrittenItem :=
  { item with words := item.words ++ words }

/-- The items that are read where items without metadata are written one after another. -/
def regroup (first : WrittenItem) : List WrittenItem → List WrittenItem
  | [] => [first]
  | next :: rest =>
    match next.amount with
    | .count _ => first :: regroup next rest
    | .all => regroup (first.extend (allName :: next.words)) rest

variable {first : WrittenItem} {rest : List WrittenItem}

theorem texts_extend (bare : first.pairs = []) {next : WrittenItem} (bare' : next.pairs = [])
    (all : next.amount = .all) :
    (first.extend (allName :: next.words)).texts = first.texts ++ next.texts := by
  simp [texts, extend, bare, bare', all, clauseTexts, WrittenAmount.text, allName]

theorem flatMap_texts_regroup (bare : ∀ item ∈ first :: rest, item.pairs = []) :
    (regroup first rest).flatMap texts = (first :: rest).flatMap texts := by
  induction rest generalizing first with
  | nil => rfl
  | cons next rest ih =>
    obtain ⟨firstBare, others⟩ := List.forall_mem_cons.1 bare
    obtain ⟨nextBare, laterBare⟩ := List.forall_mem_cons.1 others
    rw [regroup]
    cases amount : next.amount with
    | count figure => simp only [List.flatMap_cons, ih others]
    | all =>
      have longer : (first.extend (allName :: next.words)).pairs = [] := firstBare
      rw [ih (List.forall_mem_cons.2 ⟨longer, laterBare⟩)]
      simp [texts_extend firstBare nextBare amount]

theorem length_regroup_le (first : WrittenItem) (rest : List WrittenItem) :
    (regroup first rest).length ≤ rest.length + 1 := by
  induction rest generalizing first with
  | nil => exact Nat.le_refl _
  | cons next rest ih =>
    rw [regroup]
    cases next.amount with
    | count figure =>
      have shorter := ih next
      simp only [List.length_cons]
      omega
    | all =>
      have shorter := ih (first.extend (allName :: next.words))
      simp only [List.length_cons]
      omega

theorem length_regroup_eq_iff : (regroup first rest).length = rest.length + 1 ↔
    ∀ item ∈ rest, item.amount.isAll = false := by
  induction rest generalizing first with
  | nil => simp [regroup]
  | cons next rest ih =>
    rw [regroup]
    cases amount : next.amount with
    | count figure => simp [ih, amount, WrittenAmount.isAll]
    | all =>
      have shorter := length_regroup_le (first.extend (allName :: next.words)) rest
      simp only [List.length_cons, List.mem_cons, forall_eq_or_imp, amount, WrittenAmount.isAll]
      constructor
      · omega
      · exact fun wrong => by cases wrong.1

theorem regroup_of_counted (counted : ∀ item ∈ rest, item.amount.isAll = false) :
    regroup first rest = first :: rest := by
  induction rest generalizing first with
  | nil => rfl
  | cons next rest ih =>
    obtain ⟨count, others⟩ := List.forall_mem_cons.1 counted
    rw [regroup]
    cases amount : next.amount with
    | count figure => simp only [ih others]
    | all =>
      rw [amount] at count
      cases count

theorem regroup_eq_cons (first : WrittenItem) (rest : List WrittenItem) :
    ∃ head others, regroup first rest = head :: others ∧ head.amount = first.amount ∧
      ∀ item ∈ others, ∃ figure, item.amount = .count figure := by
  induction rest generalizing first with
  | nil => exact ⟨first, [], rfl, rfl, List.forall_mem_nil _⟩
  | cons next rest ih =>
    rw [regroup]
    cases amount : next.amount with
    | count figure =>
      obtain ⟨head, others, same, begins, counted⟩ := ih next
      rw [amount] at begins
      exact ⟨first, head :: others, by simp [same], rfl,
        List.forall_mem_cons.2 ⟨⟨figure, begins⟩, counted⟩⟩
    | all => exact ih (first.extend (allName :: next.words))

theorem counted_regroup (first : WrittenItem) (rest : List WrittenItem) :
    ∀ item ∈ (regroup first rest).tail, ∃ figure, item.amount = .count figure := by
  obtain ⟨head, others, same, -, counted⟩ := regroup_eq_cons first rest
  rw [same]
  exact counted

theorem regroup_ne_nil (first : WrittenItem) (rest : List WrittenItem) : regroup first rest ≠ [] := by
  obtain ⟨head, others, same, -⟩ := regroup_eq_cons first rest
  simp [same]

theorem named_regroup (named : ∀ item ∈ first :: rest, item.Named) :
    ∀ item ∈ regroup first rest, item.Named := by
  induction rest generalizing first with
  | nil => exact named
  | cons next rest ih =>
    obtain ⟨firstNamed, others⟩ := List.forall_mem_cons.1 named
    obtain ⟨nextNamed, laterNamed⟩ := List.forall_mem_cons.1 others
    rw [regroup]
    cases amount : next.amount with
    | count figure => exact List.forall_mem_cons.2 ⟨firstNamed, ih others⟩
    | all =>
      have longer : (first.extend (allName :: next.words)).Named := by
        constructor
        · simp [extend]
        · have clear : ¬allName.IsPreposition := by decide
          simp only [extend, List.mem_append, List.mem_cons]
          rintro name (member | rfl | member)
          · exact firstNamed.clear name member
          · exact clear
          · exact nextNamed.clear name member
      exact ih (List.forall_mem_cons.2 ⟨longer, laterNamed⟩)

end WrittenItem

end Inventory
