import Inventory.Item.Catalog

set_option autoImplicit false

namespace Inventory

namespace Text

def CaseRun.lowered (run : CaseRun) (code : Nat) : Nat := (code + run.shift).toNat

/-- Nothing that one run leads to is covered by the other: it lies before it, behind it, or in its
gaps. -/
def CaseRun.misses (run other : CaseRun) : Bool :=
  Nat.blt (run.lowered run.last) other.first || Nat.blt other.last (run.lowered run.first) ||
    ((run.first = run.last || run.step = 2) && other.step = 2 &&
      (run.lowered run.first + other.first) % 2 = 1)

/-- What a run leads to are characters, but no star, no capital of ASCII and no blank. The dotted
capital I, which is lowered in its own way, is not among them either. -/
structure CaseRun.Settles (run : CaseRun) : Prop where
  characters : run.lowered run.last < 0xD800 ∨
    0xDFFF < run.lowered run.first ∧ run.lowered run.last < 0x110000
  behindCapitals : 0x5A < run.lowered run.first
  undotted : run.lowered run.last < 0x130 ∨ 0x130 < run.lowered run.first
  inked : ∀ range ∈ blanks, run.lowered run.last < range.1 ∨ range.2 < run.lowered run.first
  missed : ∀ other ∈ lowercaseRuns, run.misses other

theorem lowercaseRuns_settle : ∀ run ∈ lowercaseRuns, run.Settles := by
  -- Each part is a check of the whole table, the last one of all pairs of runs.
  have characters : ∀ run ∈ lowercaseRuns, run.lowered run.last < 0xD800 ∨
      0xDFFF < run.lowered run.first ∧ run.lowered run.last < 0x110000 := by
    decide +kernel
  have behindCapitals : ∀ run ∈ lowercaseRuns, 0x5A < run.lowered run.first := by
    decide +kernel
  have undotted : ∀ run ∈ lowercaseRuns, run.lowered run.last < 0x130 ∨
      0x130 < run.lowered run.first := by
    decide +kernel
  have inked : ∀ run ∈ lowercaseRuns, ∀ range ∈ blanks,
      run.lowered run.last < range.1 ∨ range.2 < run.lowered run.first := by
    decide +kernel
  have missed : lowercaseRuns.all fun run => lowercaseRuns.all run.misses := by
    decide +kernel
  exact fun run member => ⟨characters run member, behindCapitals run member, undotted run member,
    inked run member, List.all_eq_true.1 (List.all_eq_true.1 missed run member)⟩

namespace CaseRun

variable {run other : CaseRun} {code : Nat}

theorem lowered_mem (covered : run.covers code) :
    run.lowered run.first ≤ run.lowered code ∧ run.lowered code ≤ run.lowered run.last := by
  simp only [covers, Bool.and_eq_true, decide_eq_true_eq] at covered
  unfold lowered
  omega

theorem Settles.not_covers (settles : run.Settles) (member : other ∈ lowercaseRuns)
    (covered : run.covers code) : ¬other.covers (run.lowered code) := by
  intro again
  have missed := settles.missed other member
  have behindCapitals := settles.behindCapitals
  have between := lowered_mem covered
  simp only [misses, Bool.or_eq_true, Bool.and_eq_true, decide_eq_true_eq, Nat.blt_eq] at missed
  simp only [covers, Bool.and_eq_true, decide_eq_true_eq, beq_iff_eq] at covered again
  obtain ((before | behind) | ⟨⟨steps, two⟩, odd⟩) := missed
  next => omega
  next => omega
  next =>
    -- Both runs have every other code only, and they do not start on the same foot.
    rw [two] at again
    unfold lowered at behindCapitals odd again
    cases steps with
    | inl single => omega
    | inr alsoTwo =>
      rw [alsoTwo] at covered
      omega

end CaseRun

theorem isBlank_iff {c : Char} :
    isBlank c ↔ ∃ range ∈ blanks, range.1 ≤ c.toNat ∧ c.toNat ≤ range.2 := by
  simp only [isBlank, Ranges.contains, List.any_eq_true, Bool.and_eq_true, decide_eq_true_eq]

theorem lowerChar_of_uncovered {c : Char} (behindCapitals : 0x5A < c.toNat)
    (undotted : c.toNat ≠ 0x130) (uncovered : ∀ run ∈ lowercaseRuns, ¬run.covers c.toNat) :
    lowerChar c = [c] := by
  by_cases ascii : c.toNat < 0x80
  next =>
    have all : ∀ code < 0x80, 0x5A < code → lowerChar (Char.ofNat code) = [Char.ofNat code] := by
      decide +kernel
    have settled := all c.toNat ascii behindCapitals
    rwa [Char.ofNat_toNat] at settled
  next =>
    have none : lowercaseRuns.find? (fun run => run.covers c.toNat) = none :=
      List.find?_eq_none.2 uncovered
    rw [lowerChar, if_neg ascii, if_neg undotted, shiftedCode, none, Char.ofNat_toNat]

def Settled (c : Char) : Prop := lowerChar c = [c] ∧ c ≠ '*' ∧ ¬isBlank c

instance (c : Char) : Decidable (Settled c) :=
  inferInstanceAs (Decidable (lowerChar c = [c] ∧ c ≠ '*' ∧ ¬isBlank c))

theorem settled_of_ascii {c : Char} (ascii : c.toNat < 0x80) (plain : c ≠ '*') (ink : ¬isBlank c) :
    Settled c.toLower := by
  have all : ∀ code < 0x80, Char.ofNat code ≠ '*' → ¬isBlank (Char.ofNat code) →
      Settled (Char.ofNat code).toLower := by
    decide +kernel
  have settled := all c.toNat ascii
  rw [Char.ofNat_toNat] at settled
  exact settled plain ink

theorem settled_of_run {run : CaseRun} {code : Nat} (member : run ∈ lowercaseRuns)
    (covered : run.covers code) : Settled (Char.ofNat (run.lowered code)) := by
  have settles := lowercaseRuns_settle run member
  have between := CaseRun.lowered_mem covered
  have behindCapitals := settles.behindCapitals
  have valid : (run.lowered code).isValidChar := by
    have characters := settles.characters
    unfold Nat.isValidChar
    omega
  have code_eq : (Char.ofNat (run.lowered code)).toNat = run.lowered code := by
    rw [Char.ofNat, dif_pos valid]
    exact UInt32.toNat_ofNatLT ..
  refine ⟨lowerChar_of_uncovered ?_ ?_ ?_, ?_, ?_⟩
  next => omega
  next =>
    have undotted := settles.undotted
    omega
  next =>
    rw [code_eq]
    exact fun other known => settles.not_covers known covered
  next =>
    intro star
    have code_star : run.lowered code = 0x2A := by
      rw [← code_eq, star]
      rfl
    omega
  next =>
    intro blank
    obtain ⟨range, known, inside⟩ := isBlank_iff.1 blank
    have inked := settles.inked range known
    omega

theorem settled_of_mem_lowerChar {c d : Char} (plain : c ≠ '*') (ink : ¬isBlank c)
    (lowered : d ∈ lowerChar c) : Settled d := by
  unfold lowerChar at lowered
  split at lowered
  next ascii =>
    cases List.mem_singleton.1 lowered
    exact settled_of_ascii ascii plain ink
  next =>
    split at lowered
    next =>
      have both : ['i', Char.ofNat 0x307].all fun d => Settled d := by decide +kernel
      exact of_decide_eq_true (List.all_eq_true.1 both d lowered)
    next undotted =>
      cases List.mem_singleton.1 lowered
      unfold shiftedCode
      split
      next run found =>
        have covered := List.find?_some found
        exact settled_of_run (List.mem_of_find?_eq_some found) covered
      next none =>
        rw [Char.ofNat_toNat]
        have uncovered := List.find?_eq_none.1 none
        exact ⟨lowerChar_of_uncovered (by omega) undotted uncovered, plain, ink⟩

end Text

theorem toList_normalizeName (name : String) :
    (normalizeName name).toList =
      (name.toList.filter fun c => c ≠ '*' && !Text.isBlank c).flatMap Text.lowerChar := by
  rw [normalizeName, String.toList_ofList]

theorem settled_of_mem_normalizeName {name : String} {c : Char}
    (member : c ∈ (normalizeName name).toList) : Text.Settled c := by
  rw [toList_normalizeName] at member
  obtain ⟨origin, kept, lowered⟩ := List.mem_flatMap.1 member
  have counts : origin ≠ '*' ∧ ¬Text.isBlank origin := by simpa using (List.mem_filter.1 kept).2
  exact Text.settled_of_mem_lowerChar counts.1 counts.2 lowered

theorem normalizeName_of_settled {name : String} (settled : ∀ c ∈ name.toList, Text.Settled c) :
    normalizeName name = name := by
  have kept : (name.toList.filter fun c => c ≠ '*' && !Text.isBlank c) = name.toList := by
    apply List.filter_eq_self.2
    intro c member
    have counts := (settled c member).2
    simpa using counts
  have lowered : name.toList.flatMap Text.lowerChar = name.toList.flatMap fun c => [c] := by
    rw [List.flatMap_def, List.flatMap_def, List.map_congr_left fun c member => (settled c member).1]
  apply String.toList_injective
  rw [toList_normalizeName, kept, lowered, List.flatMap_singleton']

theorem normalizeName_idem (name : String) :
    normalizeName (normalizeName name) = normalizeName name :=
  normalizeName_of_settled fun _ member => settled_of_mem_normalizeName member

end Inventory
