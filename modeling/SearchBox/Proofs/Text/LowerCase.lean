import Mathlib.Data.List.Basic
import SearchBox.Text.Blank
import SearchBox.Text.LowerCase

namespace SearchBox.Text

namespace CaseRange

def Covers (r : CaseRange) (n : Nat) : Prop :=
  r.first ≤ n ∧ n ≤ r.last ∧ (n - r.first) % r.stride = 0

/-- Where the letters of the range go. -/
def image (r : CaseRange) : CaseRange :=
  ⟨(r.first + r.shift).toNat, (r.last + r.shift).toNat, r.stride, 0⟩

/-- The code points of the range are all even or all odd. -/
def alternates (r : CaseRange) : Bool := Nat.beq r.stride 2 || Nat.beq r.first r.last

/-- The ranges overlap and do not just take turns. -/
def meets (r s : CaseRange) : Bool :=
  Nat.ble r.first s.last && Nat.ble s.first r.last &&
    !(r.alternates && s.alternates && Nat.beq ((r.first + s.first) % 2) 1)

variable {r s : CaseRange} {n : Nat}

theorem has_iff {c : Char} : r.has c = true ↔ r.Covers c.toNat := by
  simp [has, Covers, and_assoc]

theorem Covers.mod_two (h : r.Covers n) (halternates : r.alternates = true) :
    n % 2 = r.first % 2 := by
  obtain ⟨hfirst, hlast, hstride⟩ := h
  simp only [alternates, Bool.or_eq_true, Nat.beq_eq] at halternates
  rcases halternates with htwo | hone
  · rw [htwo] at hstride
    omega
  · omega

theorem Covers.meets (hr : r.Covers n) (hs : s.Covers n) : r.meets s = true := by
  have hoverlap : r.first ≤ s.last ∧ s.first ≤ r.last :=
    ⟨Nat.le_trans hr.1 hs.2.1, Nat.le_trans hs.1 hr.2.1⟩
  by_contra hmeets
  simp only [CaseRange.meets, Bool.and_eq_true, Bool.not_eq_true', Bool.not_eq_false, Nat.ble_eq,
    Nat.beq_eq, hoverlap, true_and] at hmeets
  obtain ⟨⟨hralternates, hsalternates⟩, hodd⟩ := hmeets
  have hrparity := hr.mod_two hralternates
  have hsparity := hs.mod_two hsalternates
  omega

theorem Covers.image (h : r.Covers n) (hstart : 0 ≤ r.first + r.shift) :
    r.image.Covers (n + r.shift).toNat := by
  obtain ⟨hfirst, hlast, hstride⟩ := h
  have hsteps : (n + r.shift).toNat - (r.first + r.shift).toNat = n - r.first := by omega
  refine ⟨?_, ?_, ?_⟩
  · simp only [CaseRange.image]
    omega
  · simp only [CaseRange.image]
    omega
  · simp only [CaseRange.image, hsteps, hstride]

end CaseRange

def blankCaseRanges : List CaseRange := blankRanges.map fun r => ⟨r.first, r.last, 1, 0⟩

theorem isBlank_iff_covers {c : Char} :
    isBlank c = true ↔ ∃ r ∈ blankCaseRanges, r.Covers c.toNat := by
  simp [isBlank, inRanges_iff, blankCaseRanges, CaseRange.Covers, Nat.mod_one]

/-- What no letter becomes: a letter with a lower case of its own, a blank, or a code point that is
no character. -/
def unsettled : List CaseRange :=
  caseRanges ++ (blankCaseRanges ++ [⟨'İ'.toNat, 'İ'.toNat, 1, 0⟩, ⟨0xD800, 0xDFFF, 1, 0⟩])

def CaseRange.settles (r : CaseRange) : Bool :=
  decide (0 ≤ r.first + r.shift) && Nat.ble r.image.last 0x10FFFF && !unsettled.any r.image.meets

theorem settles_caseRanges : caseRanges.all CaseRange.settles = true := by decide +kernel

theorem meets_blank_caseRanges :
    caseRanges.all (fun r => !blankCaseRanges.any r.meets) = true := by decide +kernel

theorem isBlank_of_has {r : CaseRange} (hr : r ∈ caseRanges) {c : Char} (hc : r.has c = true) :
    isBlank c = false := by
  have hmeets := List.all_eq_true.1 meets_blank_caseRanges r hr
  by_contra hblank
  obtain ⟨s, hs, hcovers⟩ := isBlank_iff_covers.1 (by simpa using hblank)
  have hany := List.any_eq_true.2 ⟨s, hs, (CaseRange.has_iff.1 hc).meets hcovers⟩
  simp [hany] at hmeets

theorem toNat_ofNat {n : Nat} (h : n.isValidChar) : (Char.ofNat n).toNat = n := by
  rw [Char.ofNat, dif_pos h]
  rfl

/-- A letter becomes a character, and one that is settled. -/
theorem not_covers_of_has {r : CaseRange} (hr : r ∈ caseRanges) {c : Char}
    (hc : r.has c = true) :
    ∀ s ∈ unsettled, ¬ s.Covers (Char.ofNat (c.toNat + r.shift).toNat).toNat := by
  have hsettles := List.all_eq_true.1 settles_caseRanges r hr
  simp only [CaseRange.settles, Bool.and_eq_true, decide_eq_true_eq, Nat.ble_eq,
    Bool.not_eq_true', List.any_eq_false] at hsettles
  obtain ⟨⟨hstart, hstop⟩, hmeets⟩ := hsettles
  have himage := (CaseRange.has_iff.1 hc).image hstart
  have hsettled : ∀ s ∈ unsettled, ¬ s.Covers (c.toNat + r.shift).toNat :=
    fun s hs hcovers => hmeets s hs (himage.meets hcovers)
  have hvalid : (c.toNat + r.shift).toNat.isValidChar := by
    have hsurrogate := hsettled ⟨0xD800, 0xDFFF, 1, 0⟩ (by simp [unsettled])
    have hle := Nat.le_trans himage.2.1 hstop
    simp only [CaseRange.Covers, Nat.mod_one, and_true] at hsurrogate
    rw [Nat.isValidChar]
    omega
  rwa [toNat_ofNat hvalid]

theorem lowerChar_of_settled {d : Char} (h : ∀ s ∈ unsettled, ¬ s.Covers d.toNat) :
    lowerChar d = [d] := by
  have hdotted : d ≠ 'İ' := by
    rintro rfl
    exact h ⟨'İ'.toNat, 'İ'.toNat, 1, 0⟩ (by simp [unsettled])
      ⟨Nat.le_refl _, Nat.le_refl _, by simp⟩
  have hnone : caseRanges.find? (·.has d) = none := by
    simp only [List.find?_eq_none, CaseRange.has_iff]
    exact fun r hr => h r (List.mem_append_left _ hr)
  rw [lowerChar, if_neg hdotted, hnone]

/-- What a character becomes: something, which stays as it is and is a blank only for a blank. -/
structure LowerCaseOf (c : Char) (ds : List Char) : Prop where
  ne_nil : ds ≠ []
  fixed : ∀ d ∈ ds, lowerChar d = [d]
  isBlank_eq : ∀ d ∈ ds, isBlank d = isBlank c
  eq_of_isBlank : isBlank c = true → ds = [c]

theorem lowerCaseOf_dotted : LowerCaseOf 'İ' ['i', '\u0307'] where
  ne_nil := List.cons_ne_nil _ _
  fixed := List.forall_mem_cons.2 ⟨by decide, List.forall_mem_singleton.2 (by decide)⟩
  isBlank_eq := List.forall_mem_cons.2 ⟨by decide, List.forall_mem_singleton.2 (by decide)⟩
  eq_of_isBlank := fun h => absurd h (by decide)

theorem lowerCaseOf_finalSigma : LowerCaseOf 'Σ' ['ς'] where
  ne_nil := List.cons_ne_nil _ _
  fixed := List.forall_mem_singleton.2 (by decide)
  isBlank_eq := List.forall_mem_singleton.2 (by decide)
  eq_of_isBlank := fun h => absurd h (by decide)

theorem lowerCaseOf_lowerChar (c : Char) : LowerCaseOf c (lowerChar c) := by
  by_cases hdotted : c = 'İ'
  · subst hdotted
    exact lowerCaseOf_dotted
  · cases hfind : caseRanges.find? (·.has c) with
    | none =>
      have hself : lowerChar c = [c] := by rw [lowerChar, if_neg hdotted, hfind]
      exact ⟨by simp [hself], by simp [hself], by simp [hself], fun _ => hself⟩
    | some r =>
      have hr := List.mem_of_find?_eq_some hfind
      have hc := List.find?_some (p := fun r : CaseRange => r.has c) hfind
      have hlower : lowerChar c = [Char.ofNat (c.toNat + r.shift).toNat] := by
        rw [lowerChar, if_neg hdotted, hfind]
      have hsettled := not_covers_of_has hr hc
      generalize Char.ofNat (c.toNat + r.shift).toNat = d at hlower hsettled
      have hletter := isBlank_of_has hr hc
      have hblank : isBlank d = false := by
        by_contra hblank
        obtain ⟨s, hs, hcovers⟩ := isBlank_iff_covers.1 (by simpa using hblank)
        exact hsettled s (List.mem_append_right _ (List.mem_append_left _ hs)) hcovers
      exact ⟨by simp [hlower], by simp [hlower, lowerChar_of_settled hsettled],
        by simp [hlower, hblank, hletter], fun h => absurd h (by simp [hletter])⟩

theorem exists_lowerCaseOf (before : List Char) (c : Char) (cs : List Char) :
    ∃ ds, LowerCaseOf c ds ∧ lowerAfter before (c :: cs) = ds ++ lowerAfter (c :: before) cs := by
  rw [lowerAfter]
  split
  · rename_i hsigma
    simp only [Bool.and_eq_true, decide_eq_true_eq] at hsigma
    obtain ⟨⟨rfl, -⟩, -⟩ := hsigma
    exact ⟨_, lowerCaseOf_finalSigma, rfl⟩
  · exact ⟨_, lowerCaseOf_lowerChar c, rfl⟩

end SearchBox.Text
