import Inventory.Proofs.Finding

set_option autoImplicit false

namespace Inventory

/-- A number of 64 bits in any spelling, or a name. Of a number the plain decimals are kept. -/
inductive MetaValue.Derives : Token → MetaValue → Prop
  | number (figure : Figure) (span : Span) :
    Derives ⟨figure.text, span⟩ ⟨toString figure.value.val, span, true⟩
  | name (name : Name) (span : Span) : Derives ⟨name.text, span⟩ ⟨name.text, span, false⟩

namespace MetaPair

def separators : List String := ["=", ":"]

inductive Derives : List Token → MetaPair → Prop
  | bare (key : Name) (span : Span) : Derives [⟨key.text, span⟩] ⟨⟨key.text, span⟩, none, none⟩
  | valued (key : Name) (span : Span) {separator token : Token} {value : MetaValue}
    (separates : separator.text ∈ separators) (derives : MetaValue.Derives token value) :
    Derives [⟨key.text, span⟩, separator, token]
      ⟨⟨key.text, span⟩, some separator.span, some value⟩

inductive DerivesMore : List Token → List (Span × MetaPair) → Prop
  | nil : DerivesMore [] []
  | cons {tokens others : List Token} {pair : MetaPair} {more : List (Span × MetaPair)}
    (comma : Span) (first : Derives tokens pair) (rest : DerivesMore others more) :
    DerivesMore (⟨",", comma⟩ :: (tokens ++ others)) ((comma, pair) :: more)

theorem DerivesMore.length_le {tokens : List Token} {more : List (Span × MetaPair)}
    (derives : DerivesMore tokens more) : more.length ≤ tokens.length := by
  induction derives with
  | nil => exact Nat.le_refl _
  | cons comma first rest ih =>
    rw [List.length_cons, List.length_cons, List.length_append]
    omega

theorem DerivesMore.no_separator {tokens : List Token} {more : List (Span × MetaPair)}
    (derives : DerivesMore tokens more) (closing : Span) (rest : List Token) :
    ∀ token ∈ (tokens ++ ⟨"]", closing⟩ :: rest).head?, token.text ∉ separators := by
  have bracket : "]" ∉ separators := by decide
  have comma : "," ∉ separators := by decide
  cases derives with
  | nil =>
    rintro _ ⟨⟩
    exact bracket
  | cons =>
    rintro _ ⟨⟩
    exact comma

end MetaPair

inductive MetaClause.Derives : List Token → MetaClause → Prop
  | brackets {tokens others : List Token} {pair : MetaPair} {more : List (Span × MetaPair)}
    (opening closing : Span) (first : MetaPair.Derives tokens pair)
    (rest : MetaPair.DerivesMore others more) :
    Derives (⟨"[", opening⟩ :: (tokens ++ others ++ [⟨"]", closing⟩]))
      ⟨opening :: more.map Prod.fst ++ [closing], pair :: more.map Prod.snd⟩

namespace Parser

variable {tokens rest : List Token}

theorem single_metaValue : Single metaValue MetaValue.Derives := by
  have number := single_numeral.map (fun n => (⟨toString n.value, n.span, true⟩ : MetaValue))
    tame_numeral
  have name := single_word.map (fun word => (⟨word.text, word.span, false⟩ : MetaValue)) tame_word
  have either := number.orElse (tame_numeral.bind fun _ => tame_pure _) (goesBack_numeral.map _) name
    (tame_word.bind fun _ => tame_pure _) ?_
  next =>
    refine either.imp_iff fun token value => ⟨?_, ?_⟩
    · rintro (⟨_, ⟨figure, span, rfl, rfl⟩, rfl⟩ | ⟨_, ⟨name, span, rfl, rfl⟩, rfl⟩)
      · exact .number figure span
      · exact .name name span
    · rintro (⟨figure, span⟩ | ⟨name, span⟩)
      · exact .inl ⟨_, ⟨figure, span, rfl, rfl⟩, rfl⟩
      · exact .inr ⟨_, ⟨name, span, rfl, rfl⟩, rfl⟩
  next =>
    rintro _ _ _ ⟨_, ⟨name, span, rfl, rfl⟩, rfl⟩ ⟨_, ⟨figure, _, same, -⟩, -⟩
    have text : name.text = figure.text := congrArg Token.text same
    exact figure.not_beginsName (text ▸ name.begins)

theorem single_separator : Single (orElse (symbol '=') (symbol ':')) fun token span =>
    token.text ∈ MetaPair.separators ∧ token.span = span := by
  refine ((single_symbol '=').orElse (tame_symbol '=') (goesBack_symbol '=') (single_symbol ':')
    (tame_symbol ':') ?_).imp_iff fun token span => ?_
  · rintro _ _ _ rfl ⟨⟩
  · constructor
    · rintro (rfl | rfl)
      · exact ⟨List.mem_cons_self, rfl⟩
      · exact ⟨List.mem_cons_of_mem _ List.mem_cons_self, rfl⟩
    · rintro ⟨separates, rfl⟩
      obtain same | same : token.text = "=" ∨ token.text = ":" := by
        simpa [MetaPair.separators] using separates
      · exact .inl (congrArg (Token.mk · token.span) same)
      · exact .inr (congrArg (Token.mk · token.span) same)

theorem finds_metaPair_iff {pair : MetaPair} :
    metaPair.finds tokens = some (pair, rest) ↔
      ∃ key after, word.finds tokens = some (key, after) ∧
        ((∃ separator later,
          (orElse (symbol '=') (symbol ':')).finds after = some (separator, later) ∧
          ∃ value, metaValue.finds later = some (value, rest) ∧
            pair = ⟨key, some separator, some value⟩) ∨
        (orElse (symbol '=') (symbol ':')).finds after = none ∧
          (⟨key, none, none⟩, after) = (pair, rest)) := by
  have valued (key : Word) (separator : Span) : Tame (metaValue >>= fun value =>
      pure (⟨key, some separator, some value⟩ : MetaPair)) := tame_metaValue.bind fun _ => tame_pure _
  refine Iff.trans (finds_attempt_bind_iff tame_word fun key => ?_) ?_
  · refine tame_separator.maybe.bind fun found => ?_
    cases found with
    | none => exact tame_pure _
    | some separator => exact valued key separator
  · refine exists₂_congr fun key after => and_congr_right fun _ => ?_
    refine Iff.trans (finds_maybe_bind_iff tame_separator ?_ ?_) ?_
    · exact valued key
    · exact tame_pure _
    · simp only [finds_map_iff tame_metaValue, finds_pure, Option.some.injEq]

theorem derives_of_finds_metaPair {pair : MetaPair}
    (found : metaPair.finds tokens = some (pair, rest)) :
    ∃ taken, tokens = taken ++ rest ∧ MetaPair.Derives taken pair := by
  obtain ⟨key, after, read, further⟩ := finds_metaPair_iff.1 found
  obtain ⟨_, rfl, name, span, rfl, rfl⟩ := (single_word _ _ _).1 read
  rcases further with ⟨separator, later, sign, value, whole, rfl⟩ | ⟨-, ⟨⟩⟩
  · obtain ⟨separator, rfl, separates, rfl⟩ := (single_separator _ _ _).1 sign
    obtain ⟨token, rfl, derives⟩ := (single_metaValue _ _ _).1 whole
    exact ⟨_, rfl, .valued name span separates derives⟩
  · exact ⟨_, rfl, .bare name span⟩

theorem finds_metaPair_of_derives {taken : List Token} {pair : MetaPair}
    (derives : MetaPair.Derives taken pair)
    (ends : ∀ token ∈ rest.head?, token.text ∉ MetaPair.separators) :
    metaPair.finds (taken ++ rest) = some (pair, rest) := by
  rw [finds_metaPair_iff]
  cases derives with
  | bare key span =>
    refine ⟨_, _, (single_word _ _ _).2 ⟨_, rfl, key, span, rfl, rfl⟩, .inr ⟨?_, rfl⟩⟩
    apply single_separator.finds_eq_none
    exact fun token first _ made => ends token first made.1
  | valued key span separates value =>
    exact ⟨_, _, (single_word _ _ _).2 ⟨_, rfl, key, span, rfl, rfl⟩, .inl
      ⟨_, _, (single_separator _ _ _).2 ⟨_, rfl, separates, rfl⟩, _,
        (single_metaValue _ _ _).2 ⟨_, rfl, value⟩, rfl⟩⟩

theorem finds_morePairs_succ_iff {limit : Nat} {more : List (Span × MetaPair)} :
    (morePairs (limit + 1)).finds tokens = some (more, rest) ↔
      (∃ comma after, (symbol ',').finds tokens = some (comma, after) ∧
        ∃ pair later, metaPair.finds after = some (pair, later) ∧
          ∃ others, (morePairs limit).finds later = some (others, rest) ∧
            more = (comma, pair) :: others) ∨
      (symbol ',').finds tokens = none ∧ ([], tokens) = (more, rest) := by
  have onward (comma : Span) (pair : MetaPair) : Tame (morePairs limit >>= fun others =>
      pure ((comma, pair) :: others)) := (tame_morePairs limit).bind fun _ => tame_pure _
  have present (comma : Span) : Tame (metaPair >>= fun pair => morePairs limit >>= fun others =>
      pure ((comma, pair) :: others)) := tame_metaPair.bind (onward comma)
  refine (finds_maybe_bind_iff (tame_symbol ',') present (tame_pure [])).trans ?_
  simp only [finds_bind_iff tame_metaPair (onward _), finds_map_iff (tame_morePairs limit),
    finds_pure, Option.some.injEq]

theorem derives_of_finds_morePairs {limit : Nat} {more : List (Span × MetaPair)}
    (found : (morePairs limit).finds tokens = some (more, rest)) :
    ∃ taken, tokens = taken ++ rest ∧ MetaPair.DerivesMore taken more := by
  induction limit generalizing tokens more with
  | zero =>
    cases found
    exact ⟨[], rfl, .nil⟩
  | succ limit ih =>
    rcases finds_morePairs_succ_iff.1 found with
      ⟨comma, after, sign, pair, later, first, others, rest, rfl⟩ | ⟨-, ⟨⟩⟩
    · obtain ⟨_, rfl, rfl⟩ := (single_symbol ',' _ _ _).1 sign
      obtain ⟨here, rfl, derives⟩ := derives_of_finds_metaPair first
      obtain ⟨taken, rfl, derivesMore⟩ := ih rest
      exact ⟨_, by simp, .cons comma derives derivesMore⟩
    · exact ⟨[], rfl, .nil⟩

theorem finds_morePairs_of_derives {taken : List Token} {more : List (Span × MetaPair)}
    (derives : MetaPair.DerivesMore taken more) {limit : Nat} (enough : more.length ≤ limit)
    (closing : Span) (rest : List Token) :
    (morePairs limit).finds (taken ++ ⟨"]", closing⟩ :: rest) =
      some (more, ⟨"]", closing⟩ :: rest) := by
  induction derives generalizing limit with
  | nil =>
    cases limit with
    | zero => rfl
    | succ limit =>
      refine finds_morePairs_succ_iff.2 (.inr ⟨(single_symbol ',').finds_eq_none ?_, rfl⟩)
      rintro _ ⟨⟩ span same
      have text : "]" = "," := congrArg Token.text same
      exact absurd text (by decide)
  | @cons tokens others pair more comma first derivesMore ih =>
    cases limit with
    | zero => exact absurd enough (Nat.not_succ_le_zero _)
    | succ limit =>
      have later := ih (Nat.le_of_succ_le_succ enough)
      have here := finds_metaPair_of_derives first (derivesMore.no_separator closing rest)
      rw [← List.append_assoc] at here
      exact finds_morePairs_succ_iff.2 (.inl ⟨comma, _, (single_symbol ',' _ _ _).2 ⟨_, rfl, rfl⟩,
        pair, _, here, more, later, rfl⟩)

theorem finds_metaClause_iff {clause : MetaClause} :
    metaClause.finds tokens = some (clause, rest) ↔
      ∃ opening after, (symbol '[').finds tokens = some (opening, after) ∧
        ∃ first later, metaPair.finds after = some (first, later) ∧
          ∃ more last, (morePairs later.length).finds later = some (more, last) ∧
            ∃ closing, (symbol ']').finds last = some (closing, rest) ∧
              clause = ⟨opening :: more.map Prod.fst ++ [closing], first :: more.map Prod.snd⟩ := by
  have others (opening : Span) (first : MetaPair) : Tame (withAhead morePairs >>= fun more =>
      symbol ']' >>= fun closing => pure (⟨opening :: more.map Prod.fst ++ [closing],
        first :: more.map Prod.snd⟩ : MetaClause)) :=
    (Tame.withAhead tame_morePairs).bind fun _ => (tame_symbol ']').bind fun _ => tame_pure _
  refine (finds_attempt_bind_iff (tame_symbol '[') fun opening =>
    tame_metaPair.bind (others opening)).trans ?_
  simp only [finds_bind_iff tame_metaPair (others _), finds_withAhead tame_morePairs,
    finds_bind_iff (Tame.withAhead tame_morePairs) (fun _ =>
      (tame_symbol ']').bind fun _ => tame_pure _),
    finds_map_iff (tame_symbol ']')]

theorem accepts_metaClause : Accepts metaClause MetaClause.Derives := by
  intro tokens clause rest
  rw [finds_metaClause_iff]
  constructor
  · rintro ⟨opening, after, opens, first, later, here, more, last, others, closing, closes, rfl⟩
    obtain ⟨_, rfl, rfl⟩ := (single_symbol '[' _ _ _).1 opens
    obtain ⟨taken, rfl, derives⟩ := derives_of_finds_metaPair here
    obtain ⟨taken', rfl, derivesMore⟩ := derives_of_finds_morePairs others
    obtain ⟨_, rfl, rfl⟩ := (single_symbol ']' _ _ _).1 closes
    exact ⟨_, by simp, .brackets opening closing derives derivesMore⟩
  · rintro ⟨_, rfl, @⟨taken, taken', pair, more, opening, closing, first, derivesMore⟩⟩
    have here := finds_metaPair_of_derives first (derivesMore.no_separator closing rest)
    have enough : more.length ≤ (taken' ++ ⟨"]", closing⟩ :: rest).length := by
      rw [List.length_append]
      exact Nat.le_trans derivesMore.length_le (Nat.le_add_right _ _)
    have others := finds_morePairs_of_derives derivesMore enough closing rest
    refine ⟨opening, _, (single_symbol '[' _ _ _).2 ⟨_, rfl, rfl⟩, pair, _, ?_, more, _, others,
      closing, (single_symbol ']' _ _ _).2 ⟨_, rfl, rfl⟩, rfl⟩
    simpa using here

theorem decides_metaClause : Decides metaClause :=
  .attempt <| decides_bind fun _ => decides_bind fun _ => decides_bind fun _ => decides_bind fun _ =>
    decides_pure

/-- The reader of clauses accepts the grammar. It finds the clause that the tokens ahead begin with and
stops behind the closing bracket, and where they begin with none it fails on the spot. -/
theorem metaClause_accepts_grammar (cursor : Cursor) :
    (∀ clause after, metaClause cursor = (.found clause, after) ↔
      ∃ taken, taken <+: cursor.rest ∧ MetaClause.Derives taken clause ∧
        after = cursor.advance taken.length) ∧
    (metaClause cursor = (.failed, cursor) ↔
      ∀ taken clause, taken <+: cursor.rest → ¬MetaClause.Derives taken clause) := by
  refine ⟨fun clause after => accepts_metaClause.found_iff tame_metaClause, ?_⟩
  rw [← accepts_metaClause.missing_iff tame_metaClause]
  constructor
  · intro failed
    rw [failed]
    rfl
  · intro missing
    have stays := tentative_metaClause.goesBack cursor missing
    have decides := decides_metaClause cursor
    revert missing stays decides
    rcases metaClause cursor with ⟨node | _ | _, after⟩
    · exact fun missing => by cases missing
    · exact fun _ _ decides => absurd rfl decides
    · exact fun _ stays _ => congrArg _ stays

example : metaClause (.ofTokens (tokenize "[life=+07, equip]")) =
    (.found ⟨[⟨0, 1⟩, ⟨9, 10⟩, ⟨16, 17⟩], [⟨⟨"life", ⟨1, 5⟩⟩, some ⟨5, 6⟩, some ⟨"7", ⟨6, 9⟩, true⟩⟩,
      ⟨⟨"equip", ⟨11, 16⟩⟩, none, none⟩]⟩, ⟨tokenize "[life=+07, equip]", 7, []⟩) := by
  decide +kernel

end Parser

end Inventory
