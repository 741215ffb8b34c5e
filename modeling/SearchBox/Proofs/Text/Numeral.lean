import Mathlib.Data.List.TakeWhile
import Mathlib.Data.Nat.Digits.Defs
import SearchBox.Proofs.Text.Words
import SearchBox.Text.Digit
import SearchBox.Text.Numeral

namespace SearchBox.Text

theorem isDigit_of_isDigit {c : Char} (h : c.isDigit = true) : isDigit c = true := by
  obtain ⟨hfirst, hlast⟩ := Char.isDigit_iff_toNat.1 h
  exact inRanges_iff.2 ⟨⟨0x30, 0x39⟩, List.mem_cons_self, hfirst, hlast⟩

/-- Among the ASCII characters the digits of all scripts are those of ASCII. -/
theorem isDigit_of_ascii {c : Char} (hascii : c.toNat < 128) (h : isDigit c = true) :
    c.isDigit = true := by
  obtain ⟨r, hr, hfirst, hlast⟩ := inRanges_iff.1 h
  have hranges : ∀ r ∈ digitRanges, r.first = 0x30 ∧ r.last = 0x39 ∨ 128 ≤ r.first := by decide
  rcases hranges r hr with ⟨hzero, hnine⟩ | hbeyond
  · rw [hzero] at hfirst
    rw [hnine] at hlast
    exact Char.isDigit_iff_toNat.2 ⟨hfirst, hlast⟩
  · omega

theorem ne_of_isDigit {c d : Char} (hc : c.isDigit = true) (hd : d.isDigit = false) : c ≠ d := by
  rintro rfl
  exact Bool.false_ne_true (hd.symm.trans hc)

theorem parts_of_isFixedPoint {cs : List Char} (h : isFixedPoint cs = true) :
    allDigits cs = true ∨ ∃ whole places, cs = whole ++ '.' :: places ∧
      allDigits whole = true ∧ allDigits places = true := by
  obtain ⟨hwhole, hrest⟩ := Bool.and_eq_true_iff.1 h
  have hparts := List.takeWhile_append_dropWhile (p := isDigit) (l := cs)
  have hdigits : allDigits (cs.takeWhile isDigit) = true := by
    rw [allDigits, hwhole, List.all_takeWhile, Bool.and_true]
  split at hrest
  · rename_i hnil
    rw [hnil, List.append_nil] at hparts
    exact .inl (hparts ▸ hdigits)
  · rename_i c places hcons
    obtain ⟨hpoint, hplaces⟩ := Bool.and_eq_true_iff.1 hrest
    rw [hcons, eq_of_beq hpoint] at hparts
    exact .inr ⟨_, places, hparts.symm, hdigits, hplaces⟩

/-- A number that is not a row of digits has a point in it. -/
theorem point_mem_of_isFixedPoint {cs : List Char} (h : isFixedPoint cs = true)
    (hdigits : allDigits cs = false) : '.' ∈ cs := by
  rcases parts_of_isFixedPoint h with hall | ⟨whole, places, rfl, -, -⟩
  · exact absurd hall (by simp [hdigits])
  · exact List.mem_append_right whole List.mem_cons_self

theorem natural?_of_allDigits {cs : List Char} (hascii : ∀ c ∈ cs, c.toNat < 128)
    (h : allDigits cs = true) : natural? cs = some (ofDigits cs) := by
  obtain ⟨hne, hdigits⟩ := Bool.and_eq_true_iff.1 h
  have hall : cs.all Char.isDigit = true := List.all_eq_true.2 fun c hc =>
    isDigit_of_ascii (hascii c hc) (List.all_eq_true.1 hdigits c hc)
  rw [natural?, hne, hall]
  rfl

theorem isDigit_of_natural? {cs : List Char} {n : Nat} (h : natural? cs = some n) :
    ∀ c ∈ cs, c.isDigit = true := by
  simp only [natural?, Option.ite_none_right_eq_some, Bool.and_eq_true] at h
  exact List.all_eq_true.1 h.1.2

/-- No digit is a sign, so digits alone are read as they are. -/
theorem integer?_of_natural? {cs : List Char} {n : Nat} (h : natural? cs = some n) :
    integer? cs = (some (n : Int)).filter fitsInt64 := by
  have hdigits := isDigit_of_natural? h
  unfold integer?
  split
  · exact absurd (hdigits '-' List.mem_cons_self) (by decide)
  · exact absurd (hdigits '+' List.mem_cons_self) (by decide)
  · rw [h]
    rfl

theorem index?_of_natural? {cs : List Char} {n : Nat} (h : natural? cs = some n)
    (hn : n < 0x10000000000000000) : index? cs = some n := by
  have hdigits := isDigit_of_natural? h
  unfold index?
  split
  · exact absurd (hdigits '+' List.mem_cons_self) (by decide)
  · simp only [h, Option.filter_some, hn, decide_true, if_true]

theorem isBlank_of_isDigit {c : Char} (h : c.isDigit = true) : isBlank c = false := by
  obtain ⟨hfirst, hlast⟩ := Char.isDigit_iff_toNat.1 h
  have hapart : ∀ r ∈ blankRanges, r.last < '0'.toNat ∨ '9'.toNat < r.first := by decide
  rw [← Bool.not_eq_true, isBlank, inRanges_iff]
  rintro ⟨r, hr, hle, hge⟩
  rcases hapart r hr with h | h <;> omega

theorem isDigit_of_mem_toString (n : Nat) : ∀ c ∈ (toString n).toList, c.isDigit = true := by
  rw [Nat.toString_eq_ofList_toDigits, String.toList_ofList]
  exact fun c hc => Nat.isDigit_of_mem_toDigits (by decide) (by decide) hc

theorem toList_toString_ne_nil (n : Nat) : (toString n).toList ≠ [] := by
  rw [Nat.toString_eq_ofList_toDigits, String.toList_ofList]
  exact Nat.toDigits_ne_nil

theorem words_toString (n : Nat) : words (toString n) = [toString n] := by
  have hletters : ∀ c ∈ (toString n).toList, isBlank c = false :=
    fun c hc => isBlank_of_isDigit (isDigit_of_mem_toString n c hc)
  rw [words_eq_charWords, charWords_of_letters (toList_toString_ne_nil n) hletters,
    List.map_singleton, String.ofList_toList]

theorem allDigits_toString (n : Nat) : allDigits (toString n).toList = true := by
  have hdigits : (toString n).toList.all isDigit = true :=
    List.all_eq_true.2 fun c hc => isDigit_of_isDigit (isDigit_of_mem_toString n c hc)
  rw [allDigits, hdigits, Bool.and_true, Bool.not_eq_true', List.isEmpty_eq_false_iff]
  exact toList_toString_ne_nil n

theorem ofDigits_eq (cs : List Char) : ofDigits cs = Nat.ofDigitChars 10 cs 0 := by
  rw [Nat.ofDigitChars_eq_foldl]
  rfl

theorem natural?_toString (n : Nat) : natural? (toString n).toList = some n := by
  have hall : (toString n).toList.all Char.isDigit = true :=
    List.all_eq_true.2 (isDigit_of_mem_toString n)
  have hvalue : ofDigits (toString n).toList = n := by
    rw [ofDigits_eq, Nat.toString_eq_ofList_toDigits, String.toList_ofList,
      Nat.ofDigitChars_toDigits (by decide) (by decide)]
  rw [natural?, hall, hvalue, Bool.and_true, if_pos]
  simp

end SearchBox.Text
