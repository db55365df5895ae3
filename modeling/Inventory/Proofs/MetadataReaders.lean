import Inventory.Proofs.MetadataTexts
import Mathlib.Data.List.Forall2

set_option autoImplicit false

namespace Inventory

open Text (readLong? beginsName)

/-- Values that are the same, but for the spelling of a number. -/
def SameValue (a b : String) : Prop := a = b ∨ ∃ n, readLong? a = some n ∧ readLong? b = some n

namespace Text

theorem readInt?_of_readLong? {text : String} {n : Int} (read : readLong? text = some n) :
    readInt? text.toList = some n := by
  obtain ⟨long, found, rfl⟩ := Option.map_eq_some_iff.1 read
  obtain ⟨m, whole, fits⟩ := Option.bind_eq_some_iff.1 found
  rw [whole, Bounded.ofInt?_eq_some_iff.1 fits]

theorem readLong?_toString {text : String} {n : Int} (read : readLong? text = some n) :
    readLong? (toString n) = some n := by
  rw [readLong?, readInt?_of_readLong? read] at read
  rw [readLong?, readInt?_of_spells (spells_toString n)]
  exact read

theorem sameWord_comm (a b : String) : sameWord a b = sameWord b a := by
  rw [sameWord, sameWord, Bool.beq_comm]

end Text

namespace SameValue

variable {a b : String}

theorem refl (a : String) : SameValue a a := .inl rfl

theorem of_renders {text said : String} (renders : Metadata.Renders text said) :
    SameValue said text := by
  cases renders with
  | name => exact .inl rfl
  | number read => exact .inr ⟨_, Text.readLong?_toString read, read⟩

theorem readLong?_eq (same : SameValue a b) : readLong? a = readLong? b := by
  obtain rfl | ⟨n, one, other⟩ := same
  next => rfl
  next => rw [one, other]

theorem readInt?_eq (same : SameValue a b) :
    Text.readInt? a.toList = Text.readInt? b.toList := by
  obtain rfl | ⟨n, one, other⟩ := same
  next => rfl
  next => rw [Text.readInt?_of_readLong? one, Text.readInt?_of_readLong? other]

theorem sameWord_bareValue (same : SameValue a b) :
    Text.sameWord a Metadata.bareValue = Text.sameWord b Metadata.bareValue := by
  obtain rfl | ⟨n, one, other⟩ := same
  next => rfl
  next =>
    have noYes {text : String} (read : readLong? text = some n) :
        Text.sameWord text Metadata.bareValue = false := by
      have noName : ¬beginsName text := by
        intro begins
        rw [Text.readLong?_of_beginsName begins] at read
        cases read
      have letter : Metadata.bareValue.toList.head?.any fun c => Text.isAlphabetic c.toLower := by
        decide
      rw [Text.sameWord_comm]
      simpa using Text.not_sameWord_of_letter letter noName
    rw [noYes one, noYes other]

end SameValue

inductive MetadataFault.Same : MetadataFault → MetadataFault → Prop
  | requiresNumber {key a b : String} (same : SameValue a b) :
    Same (.requiresNumber key a) (.requiresNumber key b)
  | requiresString {key a b : String} (same : SameValue a b) :
    Same (.requiresString key a) (.requiresString key b)
  | invalidModifier (name : String) : Same (.invalidModifier name) (.invalidModifier name)
  | invalidKey (key : String) : Same (.invalidKey key) (.invalidKey key)
  | tooManyPairs : Same .tooManyPairs .tooManyPairs

namespace Metadata

inductive Agree {α : Type} : Except MetadataFault α → Except MetadataFault α → Prop
  | ok (value : α) : Agree (.ok value) (.ok value)
  | error {a b : MetadataFault} (same : a.Same b) : Agree (.error a) (.error b)

theorem Agree.map {α β : Type} {a b : Except MetadataFault α} (agree : Agree a b) (f : α → β) :
    Agree (a.map f) (b.map f) := by
  cases agree with
  | ok value => exact .ok (f value)
  | error same => exact .error same

inductive Alike : Pair → Pair → Prop
  | bare (key : String) : Alike (key, none) (key, none)
  | valued {a b : String} (key : String) (same : SameValue a b) : Alike (key, some a) (key, some b)

section Pairs

variable {a b : Pair}

theorem Alike.key (alike : Alike a b) : a.1 = b.1 := by
  cases alike <;> rfl

theorem Alike.value (alike : Alike a b) :
    SameValue (a.2.getD bareValue) (b.2.getD bareValue) := by
  cases alike with
  | bare => exact .refl bareValue
  | valued _ same => exact same

theorem agree_numberOf (alike : Alike a b) {lo hi : Int} :
    Agree (numberOf a : Except MetadataFault (Bounded lo hi)) (numberOf b) := by
  have read := alike.value.readInt?_eq
  rw [numberOf, numberOf, read, alike.key]
  split
  next n found => exact .ok n
  next => exact .error (.requiresNumber alike.value)

theorem agree_modifierOf (alike : Alike a b) : Agree (modifierOf a) (modifierOf b) := by
  cases alike with
  | bare key => exact .error (.requiresString (.refl bareValue))
  | valued key same =>
    rw [modifierOf, modifierOf]
    dsimp only
    rw [same.readLong?_eq]
    split
    next => exact .error (.requiresString same)
    next noNumber =>
      obtain rfl | ⟨n, -, read⟩ := same
      next =>
        split
        next modifier _ => exact .ok modifier
        next => exact .error (.invalidModifier _)
      next => simp [read] at noNumber

theorem agree_applyPair (edit : Edit) (alike : Alike a b) :
    Agree (applyPair edit a) (applyPair edit b) := by
  rw [applyPair, applyPair, alike.key]
  split
  next => exact (agree_numberOf alike).map _
  next => exact (agree_numberOf alike).map _
  next => exact (agree_numberOf alike).map _
  next =>
    rw [alike.value.sameWord_bareValue]
    exact .ok _
  next => exact (agree_modifierOf alike).map _
  next => exact .error (.invalidKey b.1)

end Pairs

theorem agree_foldlM {as bs : List Pair} (alike : List.Forall₂ Alike as bs) (edit : Edit) :
    Agree (as.foldlM applyPair edit) (bs.foldlM applyPair edit) := by
  induction alike generalizing edit with
  | nil => exact .ok edit
  | @cons a b as bs first _ ih =>
    have agree := agree_applyPair edit first
    rw [List.foldlM_cons, List.foldlM_cons]
    revert agree
    generalize applyPair edit a = one
    generalize applyPair edit b = other
    intro agree
    cases agree with
    | ok next => exact ih next
    | error same => exact .error same

theorem agree_ofPairs {as bs : List Pair} (alike : List.Forall₂ Alike as bs) :
    Agree (ofPairs as) (ofPairs bs) := by
  rw [ofPairs, ofPairs, alike.length_eq]
  split
  next => exact .error .tooManyPairs
  next => exact agree_foldlM alike .empty

theorem Written.alike {texts : List String} {written said : Pair}
    (pair : Written texts written said) : Alike said written := by
  cases pair with
  | bare => exact .bare _
  | valued _ _ renders => exact .valued _ (.of_renders renders)

theorem Listed.alike {texts : List String} {writtens saids : List Pair}
    (listed : Listed texts writtens saids) : List.Forall₂ Alike saids writtens := by
  induction listed with
  | last pair => exact .cons pair.alike .nil
  | more pair _ ih => exact .cons pair.alike ih

end Metadata

theorem MetaClause.readers_agree (line : String) (cursor after : Cursor) {clause : MetaClause}
    (tokens : cursor.tokens = tokenize line)
    (found : Parser.metaClause cursor = (.found clause, after)) :
    ∃ span content, Span.covering? clause.delimiters = some span ∧
      span.slice? line.toList = some ('[' :: (content ++ [']'])) ∧
      Metadata.Agree clause.edit (Metadata.ofText (String.ofList ('[' :: (content ++ [']'])))) := by
  obtain ⟨_, way, first, body, last, written, rfl, opens, closes, covering, listed⟩ :=
    Parser.finds_metaClause _ _ _ found
  have laid : Laid 0 line.toList
      (cursor.tokens.take cursor.position ++ first :: (body ++ last :: after.rest)) := by
    have split : cursor.tokens.take cursor.position ++ cursor.rest = tokenize line := by
      rw [Cursor.rest, List.take_append_drop, tokens]
    rw [way] at split
    have laid := laid_tokenize line
    rw [← split] at laid
    simpa using laid
  obtain ⟨content, start, inner, slice⟩ := laid.slice?
  rw [opens, closes] at slice
  refine ⟨_, content, covering, slice, ?_⟩
  rw [clause.edit_eq, Metadata.ofText, String.toList_ofList,
    Metadata.pairsOfText_of_listed listed inner.spaced]
  exact Metadata.agree_ofPairs listed.alike

theorem MetaClause.readers_agree_on_number :
    let line := "get sword [ Life:+007, modifier=012 ]"
    let cursor : Cursor := ⟨tokenize line, 2, []⟩
    ∃ clause after, Parser.metaClause cursor = (.found clause, after) ∧
      clause.edit = .error (.requiresString "modifier" "12") ∧
      Metadata.ofText "[ Life:+007, modifier=012 ]" = .error (.requiresString "modifier" "012") ∧
      ∃ span content, Span.covering? clause.delimiters = some span ∧
        span.slice? line.toList = some ('[' :: (content ++ [']'])) ∧
        Metadata.Agree clause.edit
          (Metadata.ofText (String.ofList ('[' :: (content ++ [']'])))) := by
  intro line cursor
  have said : ((Parser.metaClause cursor).1.node?.map MetaClause.edit) =
      some (.error (.requiresString "modifier" "12")) := by decide +kernel
  have read : Metadata.ofText "[ Life:+007, modifier=012 ]" =
      .error (.requiresString "modifier" "012") := by decide +kernel
  cases found : Parser.metaClause cursor with
  | mk outcome after =>
    cases outcome with
    | found clause =>
      rw [found] at said
      exact ⟨clause, after, rfl, Option.some.inj said, read,
        MetaClause.readers_agree line cursor after rfl found⟩
    | absent | failed =>
      rw [found] at said
      cases said

end Inventory
