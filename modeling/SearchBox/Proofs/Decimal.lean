import Mathlib.Tactic.Ring
import SearchBox.Decimal.Numeral
import SearchBox.Proofs.Text.Numeral

namespace SearchBox

namespace Text

theorem le_ofDigitChars (cs : List Char) (n : Nat) : n ≤ Nat.ofDigitChars 10 cs n := by
  rw [Nat.ofDigitChars_eq_ofDigitChars_zero]
  exact Nat.le_add_right_of_le (Nat.le_mul_of_pos_left n (Nat.pow_pos (by decide)))

theorem digitValue_lt {c : Char} (h : c.isDigit = true) : digitValue c < 10 := by
  obtain ⟨hfirst, hlast⟩ := Char.isDigit_iff_toNat.1 h
  have hzero : '0'.toNat = 48 := rfl
  have hnine : '9'.toNat = 57 := rfl
  rw [digitValue]
  omega

theorem ofDigits_append (cs ds : List Char) :
    ofDigits (cs ++ ds) = ofDigits cs * 10 ^ ds.length + ofDigits ds := by
  simp only [ofDigits_eq, Nat.ofDigitChars_append]
  rw [Nat.ofDigitChars_eq_ofDigitChars_zero, Nat.mul_comm]

theorem ofDigits_singleton (c : Char) : ofDigits [c] = digitValue c := by
  rw [ofDigits, List.foldl_cons, List.foldl_nil, Nat.mul_zero, Nat.zero_add]

theorem ofDigits_lt {cs : List Char} (h : ∀ c ∈ cs, c.isDigit = true) :
    ofDigits cs < 10 ^ cs.length := by
  induction cs with
  | nil => exact Nat.one_pos
  | cons c cs ih =>
    obtain ⟨hc, hcs⟩ := List.forall_mem_cons.1 h
    have hdigit := digitValue_lt hc
    have hrest := ih hcs
    rw [← List.singleton_append, ofDigits_append, ofDigits_singleton, List.length_append,
      Nat.pow_add]
    simp only [List.length_singleton, Nat.pow_one]
    calc digitValue c * 10 ^ cs.length + ofDigits cs
        < digitValue c * 10 ^ cs.length + 10 ^ cs.length := by omega
      _ = (digitValue c + 1) * 10 ^ cs.length := by rw [Nat.add_mul, Nat.one_mul]
      _ ≤ 10 * 10 ^ cs.length := Nat.mul_le_mul_right _ (by omega)

theorem natural?_eq_some_iff {cs : List Char} {n : Nat} :
    natural? cs = some n ↔ cs ≠ [] ∧ (∀ c ∈ cs, c.isDigit = true) ∧ ofDigits cs = n := by
  simp [natural?, and_assoc]

end Text

namespace Decimal

open Text (digitValue natural? ofDigits)

theorem exists_of?_eq_some {coefficient scale : Nat} (negative : Bool)
    (hfits : coefficient < bound) (hscale : scale ≤ 28) :
    ∃ d, of? negative coefficient scale = some d :=
  ⟨_, dif_pos ⟨hfits, hscale⟩⟩

theorem trunc_of_not_negative {d : Decimal} (h : d.negative = false) :
    d.trunc = (d.coefficient / 10 ^ d.scale : Nat) := by
  rw [trunc, mantissa, h, if_neg Bool.false_ne_true]
  rfl

namespace Reading

variable {r : Reading} {c : Char} {cs : List Char}

section Push

theorem negative_foldl_push (r : Reading) (cs : List Char) :
    (cs.foldl push r).negative = r.negative := by
  induction cs generalizing r with
  | nil => rfl
  | cons c cs ih => exact ih (r.push c)

theorem pointed_foldl_push (r : Reading) (cs : List Char) :
    (cs.foldl push r).pointed = r.pointed := by
  induction cs generalizing r with
  | nil => rfl
  | cons c cs ih => exact ih (r.push c)

theorem coefficient_foldl_push (r : Reading) (cs : List Char) :
    (cs.foldl push r).coefficient = Nat.ofDigitChars 10 cs r.coefficient := by
  induction cs generalizing r with
  | nil => rfl
  | cons c cs ih => exact ih (r.push c)

theorem started_foldl_push (h : r.started = true ∨ cs ≠ []) :
    (cs.foldl push r).started = true := by
  induction cs generalizing r with
  | nil => simpa using h
  | cons c cs ih => exact ih (.inl rfl)

theorem scale_push_of_pointed (h : r.pointed = true) (c : Char) :
    (r.push c).scale = r.scale + 1 := by
  simp only [push, h, if_true]

theorem scale_foldl_push_of_pointed (h : r.pointed = true) :
    (cs.foldl push r).scale = r.scale + cs.length := by
  induction cs generalizing r with
  | nil => rfl
  | cons c cs ih =>
    have hpushed : (r.push c).pointed = true := h
    rw [List.foldl_cons, ih hpushed, scale_push_of_pointed h, List.length_cons]
    omega

theorem scale_foldl_push_of_not_pointed (h : r.pointed = false) (hscale : r.scale = 0) :
    (cs.foldl push r).scale = 0 := by
  induction cs generalizing r with
  | nil => exact hscale
  | cons c cs ih => exact ih h (by simp [push, h])

end Push

theorem full_eq_false (h : r.pointed = true → r.scale < 28) : r.full = false := by
  cases hpointed : r.pointed with
  | false => rw [full, hpointed, Bool.false_and]
  | true =>
    have hroom := h hpointed
    rw [full, decide_eq_false (by omega), Bool.and_false]

theorem read_cons (hfull : r.full = false) (hc : c.isDigit = true) (cs : List Char) :
    r.read (c :: cs) =
      if r.next c < bound then (r.push c).read cs
      else if r.pointed then r.roundBy c cs
      else none := by
  rw [read, hfull, if_neg Bool.false_ne_true, if_pos hc]

/-- Digits are pushed one by one as long as they fit. -/
theorem read_append (hdigits : ∀ c ∈ cs, c.isDigit = true)
    (hfits : Nat.ofDigitChars 10 cs r.coefficient < bound)
    (hscale : r.pointed = true → r.scale + cs.length ≤ 28) (rest : List Char) :
    r.read (cs ++ rest) = (cs.foldl push r).read rest := by
  induction cs generalizing r with
  | nil => rfl
  | cons c cs ih =>
    obtain ⟨hc, hcs⟩ := List.forall_mem_cons.1 hdigits
    rw [List.length_cons] at hscale
    have hnext : r.next c < bound :=
      Nat.lt_of_le_of_lt (Text.le_ofDigitChars cs (r.next c)) hfits
    have hfull : r.full = false := full_eq_false fun hpointed => by
      have hroom := hscale hpointed
      omega
    rw [List.cons_append, read_cons hfull hc, if_pos hnext, List.foldl_cons]
    refine ih hcs hfits fun (hpointed : r.pointed = true) => ?_
    have hroom := hscale hpointed
    rw [scale_push_of_pointed hpointed]
    omega

/-- Before the point nothing is rounded off: a number that is too large is refused. -/
theorem read_eq_none (hdigits : ∀ c ∈ cs, c.isDigit = true) (hpointed : r.pointed = false)
    (hfits : r.coefficient < bound) (hlarge : bound ≤ Nat.ofDigitChars 10 cs r.coefficient)
    (rest : List Char) : r.read (cs ++ rest) = none := by
  induction cs generalizing r with
  | nil => exact absurd hfits (Nat.not_lt.2 hlarge)
  | cons c cs ih =>
    obtain ⟨hc, hcs⟩ := List.forall_mem_cons.1 hdigits
    have hfull : r.full = false := full_eq_false fun h => absurd h (by simp [hpointed])
    rw [List.cons_append, read_cons hfull hc]
    by_cases hnext : r.next c < bound
    · rw [if_pos hnext]
      exact ih hcs hpointed hnext hlarge
    · rw [if_neg hnext, hpointed, if_neg Bool.false_ne_true]

/-- Whatever it has read, it stays within the bounds of a decimal. -/
structure Fits (r : Reading) : Prop where
  started : r.started = true
  coefficient_lt : r.coefficient < bound
  scale_le : r.scale ≤ 28

theorem Fits.isSome_finish (h : r.Fits) : r.finish.isSome = true := by
  obtain ⟨d, hd⟩ :=
    exists_of?_eq_some (r.negative && r.coefficient != 0) h.coefficient_lt h.scale_le
  rw [finish, if_pos h.started, hd, Option.isSome_some]

/-- Rounding fails only where there is no place to give up. -/
theorem Fits.isSome_roundBy_iff (h : r.Fits) (hdigits : ∀ d ∈ c :: cs, d.isDigit = true) :
    (r.roundBy c cs).isSome = true ↔
      digitValue c < 5 ∨ r.coefficient + 1 < bound ∨ 0 < r.scale := by
  have hall : (c :: cs).all isDigitOrGap = true :=
    List.all_eq_true.2 fun d hd => by rw [isDigitOrGap, hdigits d hd, Bool.true_or]
  have hgap : c ≠ '_' := Text.ne_of_isDigit (hdigits c List.mem_cons_self) (by decide)
  simp only [roundBy, hall, Bool.not_true, Bool.false_eq_true, if_false, hgap, decide_false,
    Bool.false_or, decide_eq_true_eq]
  by_cases hdown : digitValue c < 5
  · rw [if_pos hdown]
    exact iff_of_true h.isSome_finish (.inl hdown)
  rw [if_neg hdown]
  by_cases hup : r.coefficient + 1 < bound
  · rw [if_pos hup]
    have hfits : Fits { r with coefficient := r.coefficient + 1 } := ⟨h.started, hup, h.scale_le⟩
    exact iff_of_true hfits.isSome_finish (.inr (.inl hup))
  rw [if_neg hup]
  by_cases hscale : r.scale = 0
  · rw [if_pos hscale]
    exact iff_of_false (by simp) (by omega)
  · rw [if_neg hscale]
    have hfits : Fits { r with coefficient := (r.coefficient + 5) / 10, scale := r.scale - 1 } := by
      have hlt := h.coefficient_lt
      have hle := h.scale_le
      refine ⟨h.started, ?_, ?_⟩
      · show (r.coefficient + 5) / 10 < bound
        rw [bound] at hlt ⊢
        omega
      · show r.scale - 1 ≤ 28
        omega
    exact iff_of_true hfits.isSome_finish (.inr (.inr (Nat.pos_of_ne_zero hscale)))

theorem fits_push (hpointed : r.pointed = true) (hnext : r.next c < bound)
    (hroom : r.scale < 28) : (r.push c).Fits := by
  refine ⟨rfl, hnext, ?_⟩
  rw [scale_push_of_pointed hpointed]
  exact hroom

/-- Behind the first place every digit is kept or rounded off. -/
theorem Fits.isSome_read (h : r.Fits) (hpointed : r.pointed = true) (hscale : 0 < r.scale)
    (hdigits : ∀ c ∈ cs, c.isDigit = true) : (r.read cs).isSome = true := by
  induction cs generalizing r with
  | nil => exact h.isSome_finish
  | cons c cs ih =>
    have hround : (r.roundBy c cs).isSome = true :=
      (h.isSome_roundBy_iff hdigits).2 (.inr (.inr hscale))
    obtain ⟨hc, hcs⟩ := List.forall_mem_cons.1 hdigits
    by_cases hroom : r.scale < 28
    · rw [read_cons (full_eq_false fun _ => hroom) hc]
      by_cases hnext : r.next c < bound
      · rw [if_pos hnext]
        refine ih (fits_push hpointed hnext hroom) hpointed ?_ hcs
        rw [scale_push_of_pointed hpointed]
        exact Nat.succ_pos _
      · rwa [if_neg hnext, if_pos hpointed]
    · have hfull : r.full = true := by
        rw [full, hpointed, Bool.true_and, decide_eq_true_iff]
        exact Nat.not_lt.1 hroom
      have hgap : c ≠ '_' := Text.ne_of_isDigit hc (by decide)
      rwa [read, if_pos hfull, decide_eq_false hgap, Bool.false_and, if_neg Bool.false_ne_true]

/-- Right behind the point the first digit decides: it may round up to a number that is too
large. -/
theorem Fits.isSome_read_iff (h : r.Fits) (hpointed : r.pointed = true) (hscale : r.scale = 0)
    (hdigits : ∀ d ∈ c :: cs, d.isDigit = true) :
    (r.read (c :: cs)).isSome = true ↔ digitValue c < 5 ∨ r.coefficient + 1 < bound := by
  obtain ⟨hc, hcs⟩ := List.forall_mem_cons.1 hdigits
  rw [read_cons (full_eq_false fun _ => by omega) hc]
  by_cases hnext : r.next c < bound
  · rw [if_pos hnext]
    have hpushed := fits_push hpointed hnext (by omega)
    have hplace : 0 < (r.push c).scale := by
      rw [scale_push_of_pointed hpointed]
      exact Nat.succ_pos _
    refine iff_of_true (hpushed.isSome_read hpointed hplace hcs) (.inr ?_)
    -- Ten times the coefficient fits, so there is room above it.
    rw [next] at hnext
    rw [bound] at hnext ⊢
    omega
  · rw [if_neg hnext, if_pos hpointed, h.isSome_roundBy_iff hdigits, hscale]
    simp

theorem read_point (h : r.pointed = false) (cs : List Char) :
    r.read ('.' :: cs) = { r with pointed := true }.read cs := by
  have hfull : r.full = false := full_eq_false fun hpointed => absurd hpointed (by simp [h])
  have hdigit : '.'.isDigit = false := rfl
  rw [read, hfull, if_neg Bool.false_ne_true, hdigit, if_neg Bool.false_ne_true, h]
  rfl

theorem finish_eq_of? (hstarted : r.started = true) (hnegative : r.negative = false) :
    r.finish = of? false r.coefficient r.scale := by
  rw [finish, if_pos hstarted, hnegative, Bool.false_and]

/-- Once a whole number that fits has been read. -/
theorem exists_after_whole (hne : cs ≠ []) (hdigits : ∀ c ∈ cs, c.isDigit = true)
    (hfits : ofDigits cs < bound) :
    ∃ r : Reading, (∀ rest, ({ negative := false } : Reading).read (cs ++ rest) = r.read rest) ∧
      r.negative = false ∧ r.coefficient = ofDigits cs ∧ r.scale = 0 ∧ r.pointed = false ∧
      r.started = true := by
  rw [Text.ofDigits_eq] at hfits ⊢
  exact ⟨cs.foldl push { negative := false },
    read_append hdigits hfits (fun hpointed => nomatch hpointed),
    negative_foldl_push _ cs, coefficient_foldl_push _ cs,
    scale_foldl_push_of_not_pointed rfl rfl, pointed_foldl_push _ cs,
    started_foldl_push (.inr hne)⟩

theorem exists_after_point (hne : cs ≠ []) (hdigits : ∀ c ∈ cs, c.isDigit = true)
    (hfits : ofDigits cs < bound) :
    ∃ r : Reading,
      (∀ rest, ({ negative := false } : Reading).read (cs ++ '.' :: rest) = r.read rest) ∧
        r.negative = false ∧ r.coefficient = ofDigits cs ∧ r.scale = 0 ∧ r.pointed = true ∧
        r.started = true := by
  obtain ⟨r, hread, hnegative, hcoefficient, hscale, hpointed, hstarted⟩ :=
    exists_after_whole hne hdigits hfits
  exact ⟨{ r with pointed := true }, fun rest => (hread _).trans (read_point hpointed rest),
    hnegative, hcoefficient, hscale, rfl, hstarted⟩

/-- Behind a point, places that all fit are all kept. -/
theorem read_places (hne : cs ≠ []) (hdigits : ∀ c ∈ cs, c.isDigit = true)
    (hnegative : r.negative = false) (hpointed : r.pointed = true) (hscale : r.scale = 0)
    (hfits : Nat.ofDigitChars 10 cs r.coefficient < bound) (hroom : cs.length ≤ 28) :
    r.read cs = of? false (Nat.ofDigitChars 10 cs r.coefficient) cs.length := by
  have hread := read_append hdigits hfits (fun _ => by rwa [hscale, Nat.zero_add]) []
  rw [List.append_nil] at hread
  rw [hread, read, finish_eq_of? (started_foldl_push (.inr hne))
    ((negative_foldl_push r cs).trans hnegative), coefficient_foldl_push,
    scale_foldl_push_of_pointed hpointed, hscale, Nat.zero_add]

end Reading

/-- ASCII digits, `k` of them behind a point where there is one. Without the point they spell
`m`. -/
inductive Spelled : List Char → Nat → Nat → Prop
  | whole {cs : List Char} {m : Nat} (h : natural? cs = some m) : Spelled cs m 0
  | point {whole places : List Char} {m : Nat} (hwhole : whole ≠ []) (hplaces : places ≠ [])
      (h : natural? (whole ++ places) = some m) :
      Spelled (whole ++ '.' :: places) m places.length

theorem readPlain?_of_isDigit {c : Char} (hc : c.isDigit = true) (cs : List Char) :
    readPlain? (c :: cs) = ({ negative := false } : Reading).read (c :: cs) := by
  simp only [readPlain?]
  split
  · rename_i hminus
    exact absurd (List.cons.inj hminus).1 (Text.ne_of_isDigit hc (by decide))
  · rename_i hplus
    exact absurd (List.cons.inj hplus).1 (Text.ne_of_isDigit hc (by decide))
  · rfl

namespace Spelled

variable {s : String} {cs : List Char} {m k : Nat}

theorem isDigit_or_point (h : Spelled cs m k) : ∀ c ∈ cs, c.isDigit = true ∨ c = '.' := by
  cases h with
  | whole h => exact fun c hc => .inl (Text.isDigit_of_natural? h c hc)
  | point _ _ h =>
    have hdigits := Text.isDigit_of_natural? h
    intro c hc
    rcases List.mem_append.1 hc with hc | hc
    · exact .inl (hdigits c (List.mem_append_left _ hc))
    · rcases List.mem_cons.1 hc with rfl | hc
      · exact .inr rfl
      · exact .inl (hdigits c (List.mem_append_right _ hc))

theorem exists_cons (h : Spelled cs m k) : ∃ c rest, cs = c :: rest ∧ c.isDigit = true := by
  cases h with
  | whole h =>
    obtain ⟨hne, hdigits, -⟩ := Text.natural?_eq_some_iff.1 h
    obtain ⟨c, rest, rfl⟩ := List.exists_cons_of_ne_nil hne
    exact ⟨c, rest, rfl, hdigits c List.mem_cons_self⟩
  | @point whole places _ hwhole _ h =>
    obtain ⟨c, rest, rfl⟩ := List.exists_cons_of_ne_nil hwhole
    exact ⟨c, rest ++ '.' :: places, rfl, Text.isDigit_of_natural? h c List.mem_cons_self⟩

/-- There is no sign and no exponent. -/
theorem read?_eq (h : Spelled s.toList m k) :
    read? s = ({ negative := false } : Reading).read s.toList := by
  have hmark : ∀ c ∈ s.toList, (!isExponentMark c) = true := by
    intro c hc
    rcases h.isDigit_or_point c hc with hdigit | rfl
    · have hsmall : c ≠ 'e' := Text.ne_of_isDigit hdigit (by decide)
      have hcapital : c ≠ 'E' := Text.ne_of_isDigit hdigit (by decide)
      simp [isExponentMark, hsmall, hcapital]
    · decide
  have hbase : s.toList.takeWhile (!isExponentMark ·) = s.toList :=
    List.takeWhile_eq_self_iff.2 hmark
  have hexponent : s.toList.dropWhile (!isExponentMark ·) = [] :=
    List.dropWhile_eq_nil_iff.2 hmark
  obtain ⟨c, rest, hcs, hc⟩ := h.exists_cons
  rw [read?, hbase, hexponent, hcs]
  exact readPlain?_of_isDigit hc rest

/-- What 96 bits and 28 places hold is read as it is. -/
theorem exists_read?_eq (h : Spelled s.toList m k) (hm : m < bound) (hk : k ≤ 28) :
    ∃ d, read? s = some d ∧ d.negative = false ∧ d.coefficient = m ∧ d.scale = k := by
  suffices hread : read? s = of? false m k by
    obtain ⟨d, hd⟩ := exists_of?_eq_some false hm hk
    exact ⟨d, hread.trans hd, of?_eq_some hd⟩
  rw [h.read?_eq]
  generalize s.toList = cs at h
  cases h with
  | whole h =>
    obtain ⟨hne, hdigits, rfl⟩ := Text.natural?_eq_some_iff.1 h
    obtain ⟨r, hread, hnegative, hcoefficient, hscale, -, hstarted⟩ :=
      Reading.exists_after_whole hne hdigits hm
    have hend := hread []
    rw [List.append_nil] at hend
    rw [hend, Reading.read, Reading.finish_eq_of? hstarted hnegative, hcoefficient, hscale]
  | @point whole places _ hwhole hplaces h =>
    obtain ⟨-, hdigits, rfl⟩ := Text.natural?_eq_some_iff.1 h
    obtain ⟨hwholes, hplace⟩ := List.forall_mem_append.1 hdigits
    have hle : ofDigits whole ≤ ofDigits (whole ++ places) := by
      simp only [Text.ofDigits_eq, Nat.ofDigitChars_append]
      exact Text.le_ofDigitChars places _
    obtain ⟨r, hread, hnegative, hcoefficient, hscale, hpointed, -⟩ :=
      Reading.exists_after_point hwhole hwholes (Nat.lt_of_le_of_lt hle hm)
    have hvalue : Nat.ofDigitChars 10 places r.coefficient = ofDigits (whole ++ places) := by
      rw [hcoefficient, Text.ofDigits_eq, Text.ofDigits_eq, Nat.ofDigitChars_append]
    rw [hread, Reading.read_places hplaces hplace hnegative hpointed hscale (hvalue ▸ hm) hk,
      hvalue]

/-- Half of the last whole number is where rounding up begins. -/
theorem rounds_iff {whole digit rest unit limit : Nat} (hrest : rest < unit) (hdigit : digit < 10)
    (hwhole : whole < limit) :
    2 * (whole * (unit * 10) + (digit * unit + rest)) + unit * 10 < 2 * limit * (unit * 10) ↔
      digit < 5 ∨ whole + 1 < limit := by
  obtain ⟨room, rfl⟩ := Nat.exists_eq_add_of_lt hwhole
  have hscaled : 2 * (whole + room + 1) * (unit * 10) =
      2 * (whole * (unit * 10)) + 20 * (room * unit) + 20 * unit := by ring
  rw [hscaled]
  -- With a whole number left above, any digit may round up; with none left, only a small one fits.
  constructor
  · intro h
    by_contra! hnot
    obtain ⟨hfive, hlast⟩ := hnot
    obtain rfl : room = 0 := by omega
    have hhalf : 5 * unit ≤ digit * unit := Nat.mul_le_mul_right unit hfive
    omega
  · rintro (hfour | hroom)
    · have hhalf : digit * unit ≤ 4 * unit := Nat.mul_le_mul_right unit (by omega)
      omega
    · have hnine : digit * unit ≤ 9 * unit := Nat.mul_le_mul_right unit (by omega)
      have hone : 1 * unit ≤ room * unit := Nat.mul_le_mul_right unit (by omega)
      omega

/-- A numeral is refused where it rounds to a whole number of more than 96 bits. -/
theorem isSome_read?_iff (h : Spelled s.toList m k) :
    (read? s).isSome = true ↔ 2 * m + 10 ^ k < 2 * bound * 10 ^ k := by
  by_cases hsmall : m < bound ∧ k = 0
  · obtain ⟨d, hd, -⟩ := h.exists_read?_eq hsmall.1 (by omega)
    rw [hd, hsmall.2]
    exact iff_of_true rfl (by omega)
  rw [h.read?_eq]
  generalize s.toList = cs at h
  cases h with
  | whole h =>
    have hlarge : bound ≤ m := by omega
    obtain ⟨hne, hdigits, rfl⟩ := Text.natural?_eq_some_iff.1 h
    rw [Text.ofDigits_eq] at hlarge
    have hnone :=
      Reading.read_eq_none (r := { negative := false }) hdigits rfl (by decide) hlarge []
    rw [List.append_nil] at hnone
    rw [hnone, Text.ofDigits_eq]
    exact iff_of_false (by simp) (by omega)
  | @point whole places _ hwhole hplaces h =>
    obtain ⟨-, hdigits, rfl⟩ := Text.natural?_eq_some_iff.1 h
    obtain ⟨hwholes, hplace⟩ := List.forall_mem_append.1 hdigits
    rw [Text.ofDigits_append]
    by_cases hfits : ofDigits whole < bound
    · obtain ⟨r, hread, -, hcoefficient, hscale, hpointed, hstarted⟩ :=
        Reading.exists_after_point hwhole hwholes hfits
      have hr : r.Fits := ⟨hstarted, by rwa [hcoefficient], by omega⟩
      -- The first place decides, and the others come to less than one of its units.
      obtain ⟨c, places, rfl⟩ := List.exists_cons_of_ne_nil hplaces
      obtain ⟨hc, hrest⟩ := List.forall_mem_cons.1 hplace
      rw [hread, hr.isSome_read_iff hpointed hscale hplace, hcoefficient, ← List.singleton_append,
        Text.ofDigits_append, Text.ofDigits_singleton, List.singleton_append, List.length_cons,
        Nat.pow_succ, rounds_iff (Text.ofDigits_lt hrest) (Text.digitValue_lt hc) hfits]
    · have hnone := Reading.read_eq_none (r := { negative := false }) hwholes rfl (by decide)
        (by rw [← Text.ofDigits_eq]; exact Nat.not_lt.1 hfits) ('.' :: places)
      have hlarge := Nat.mul_le_mul_right (10 ^ places.length) (Nat.not_lt.1 hfits)
      rw [hnone]
      refine iff_of_false (by simp) ?_
      rw [Nat.mul_assoc]
      generalize 10 ^ places.length = unit at hlarge ⊢
      generalize bound * unit = ceiling at hlarge ⊢
      omega

end Spelled

end Decimal

end SearchBox
