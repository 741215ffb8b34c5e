import SearchBox.Proofs.Decimal

namespace SearchBox.Decimal

/-- `q` is the integer nearest to `n / unit`, and of two the greater. -/
def HalfUp (n unit q : Nat) : Prop :=
  2 * (q * unit) ≤ 2 * n + unit ∧ 2 * n + unit < 2 * (q * unit) + 2 * unit

/-- `q` is the integer nearest to `n / unit`, and of two the even one. -/
structure HalfEven (n unit q : Nat) : Prop where
  le : 2 * n ≤ 2 * (q * unit) + unit
  ge : 2 * (q * unit) ≤ 2 * n + unit
  even : 2 * n = 2 * (q * unit) + unit ∨ 2 * (q * unit) = 2 * n + unit → q % 2 = 0

/-- What a decimal holds of `n / 10 ^ k`: as many of the `k` places as 28 places and 96 bits allow,
the others rounded off. -/
structure Held (Nearest : Nat → Nat → Nat → Prop) (n k coefficient scale : Nat) : Prop where
  scale_le : scale ≤ k
  scale_le_max : scale ≤ 28
  nearest : Nearest n (10 ^ (k - scale)) coefficient
  coefficient_lt : coefficient < bound
  greatest : ∀ s q, scale < s → s ≤ k → s ≤ 28 → Nearest n (10 ^ (k - s)) q → bound ≤ q

section Nearest

variable {n unit q q' : Nat}

theorem HalfUp.le_of_mul_le {limit : Nat} (h : HalfUp n unit q)
    (hn : 2 * (limit * unit) ≤ 2 * n + unit) : limit ≤ q := by
  obtain ⟨-, hlt⟩ := h
  by_contra hle
  have hproduct := Nat.mul_le_mul_right unit (Nat.succ_le_of_lt (Nat.not_le.1 hle))
  rw [Nat.succ_mul] at hproduct
  omega

theorem HalfUp.unique (h : HalfUp n unit q) (h' : HalfUp n unit q') : q = q' :=
  Nat.le_antisymm (h'.le_of_mul_le h.1) (h.le_of_mul_le h'.1)

theorem HalfEven.le_of (hunit : 0 < unit) (h : HalfEven n unit q) (h' : HalfEven n unit q') :
    q ≤ q' := by
  obtain ⟨-, hge, heven⟩ := h
  obtain ⟨hle', -, heven'⟩ := h'
  by_contra hlt
  have hproduct := Nat.mul_le_mul_right unit (Nat.succ_le_of_lt (Nat.not_le.1 hlt))
  rw [Nat.succ_mul] at hproduct
  -- Both are half a unit away, so they are neighbours, and both are even.
  have hneighbour : q * unit = (q' + 1) * unit := by
    rw [Nat.succ_mul]
    omega
  have hsucc := Nat.eq_of_mul_eq_mul_right hunit hneighbour
  have hq := heven (.inr (by omega))
  have hq' := heven' (.inl (by omega))
  omega

theorem HalfEven.unique (hunit : 0 < unit) (h : HalfEven n unit q) (h' : HalfEven n unit q') :
    q = q' :=
  Nat.le_antisymm (h.le_of hunit h') (h'.le_of hunit h)

theorem halfUp_one (n : Nat) : HalfUp n 1 n := by
  unfold HalfUp
  omega

theorem halfEven_one (n : Nat) : HalfEven n 1 n := ⟨by omega, by omega, by omega⟩

theorem halfEven_roundDigits (n k : Nat) : HalfEven n (10 ^ k) (roundDigits n k) := by
  have hunit : 0 < 10 ^ k := Nat.pow_pos (by decide)
  have hparts := Nat.div_add_mod' n (10 ^ k)
  have hrest := Nat.mod_lt n hunit
  simp only [roundDigits, show tenTo k = 10 ^ k from rfl]
  generalize 10 ^ k = unit at *
  split_ifs with hup
  · have hsucc : (n / unit + 1) * unit = n / unit * unit + unit := Nat.succ_mul _ _
    exact ⟨by omega, by omega, by omega⟩
  · exact ⟨by omega, by omega, by omega⟩

end Nearest

namespace Held

variable {Nearest : Nat → Nat → Nat → Prop} {n k coefficient scale coefficient' scale' : Nat}

theorem unique (h : Held Nearest n k coefficient scale) (h' : Held Nearest n k coefficient' scale')
    (hnearest : ∀ {n unit q q'}, 0 < unit → Nearest n unit q → Nearest n unit q' → q = q') :
    coefficient = coefficient' ∧ scale = scale' := by
  have hscale : scale = scale' := by
    rcases Nat.lt_trichotomy scale scale' with hlt | heq | hlt
    · have hlarge := h.greatest scale' _ hlt h'.scale_le h'.scale_le_max h'.nearest
      exact absurd h'.coefficient_lt (Nat.not_lt.2 hlarge)
    · exact heq
    · have hlarge := h'.greatest scale _ hlt h.scale_le h.scale_le_max h.nearest
      exact absurd h.coefficient_lt (Nat.not_lt.2 hlarge)
  subst hscale
  exact ⟨hnearest (Nat.pow_pos (by decide)) h.nearest h'.nearest, rfl⟩

/-- What 96 bits and 28 places hold is held as it is. -/
theorem exact (hnearest : Nearest n 1 n) (hn : n < bound) (hk : k ≤ 28) : Held Nearest n k n k where
  scale_le := le_rfl
  scale_le_max := hk
  nearest := by rwa [Nat.sub_self]
  coefficient_lt := hn
  greatest s q hlt hle := absurd hle (Nat.not_le.2 hlt)

end Held

section Product

variable {negative : Bool} {n scale : Nat} {p : Decimal}

theorem of?_eq_some_iff :
    of? negative n scale = some p ↔
      p.negative = negative ∧ p.coefficient = n ∧ p.scale = scale := by
  constructor
  · exact of?_eq_some
  · rintro ⟨rfl, rfl, rfl⟩
    exact dif_pos ⟨p.coefficient_lt, p.scale_le⟩

/-- With so many places dropped the product fits. -/
def FitsWithout (n scale dropped : Nat) : Prop :=
  roundDigits n dropped < bound ∧ scale - dropped ≤ 28

/-- The product without its last `j` places, the fewest without which it fits. -/
structure Without (p : Decimal) (n scale j : Nat) : Prop where
  le : j ≤ scale
  coefficient_eq : p.coefficient = roundDigits n j
  scale_eq : p.scale = scale - j
  fewest : ∀ i < j, ¬ FitsWithout n scale i

theorem Without.fitsWithout {j : Nat} (h : p.Without n scale j) : FitsWithout n scale j :=
  ⟨h.coefficient_eq ▸ p.coefficient_lt, h.scale_eq ▸ p.scale_le⟩

theorem fit?_finish_eq_some_iff {dropped : Nat} (hle : dropped ≤ scale)
    (hfewest : ∀ i < dropped, ¬ FitsWithout n scale i)
    (hfirst : ∀ j, p.Without n scale j → j = dropped) :
    fit?.finish negative n scale dropped = some p ↔
      p.negative = negative ∧ ∃ j, p.Without n scale j := by
  rw [fit?.finish, of?_eq_some_iff]
  refine and_congr_right fun _ => ⟨?_, ?_⟩
  · rintro ⟨hcoefficient, hscale⟩
    exact ⟨dropped, hle, hcoefficient, hscale, hfewest⟩
  · rintro ⟨j, hj⟩
    obtain rfl := hfirst j hj
    exact ⟨hj.coefficient_eq, hj.scale_eq⟩

theorem fit?_eq_some_iff {dropped spare : Nat} (hspare : dropped + spare = scale)
    (hfewest : ∀ i < dropped, ¬ FitsWithout n scale i) :
    fit? negative n scale dropped spare = some p ↔
      p.negative = negative ∧ ∃ j, p.Without n scale j := by
  have hle (j : Nat) (hj : p.Without n scale j) : dropped ≤ j :=
    Nat.le_of_not_lt fun hlt => hfewest j hlt hj.fitsWithout
  induction spare generalizing dropped with
  | zero =>
    rw [fit?]
    refine fit?_finish_eq_some_iff (by omega) hfewest fun j hj => ?_
    have hdropped := hle j hj
    have hscale := hj.le
    omega
  | succ spare ih =>
    rw [fit?]
    split_ifs with hfits
    · refine fit?_finish_eq_some_iff (by omega) hfewest fun j hj => ?_
      exact Nat.le_antisymm (Nat.le_of_not_lt fun hlt => hj.fewest dropped hlt hfits) (hle j hj)
    · have hmore : ∀ i < dropped + 1, ¬ FitsWithout n scale i := by
        intro i hi
        rcases Nat.lt_succ_iff_lt_or_eq.1 hi with hlt | rfl
        · exact hfewest i hlt
        · exact hfits
      exact ih (by omega) hmore fun j hj =>
        Nat.le_of_not_lt fun hlt => hmore j hlt hj.fitsWithout

theorem exists_without_iff_held :
    (∃ j, p.Without n scale j) ↔ Held HalfEven n scale p.coefficient p.scale := by
  constructor
  · rintro ⟨j, hj⟩
    have hle := hj.le
    have hscale := hj.scale_eq
    have hdropped : scale - p.scale = j := by omega
    refine ⟨by omega, p.scale_le, ?_, p.coefficient_lt, ?_⟩
    · rw [hdropped, hj.coefficient_eq]
      exact halfEven_roundDigits n j
    · intro s q hs hsk hmax hq
      have hplaces : scale - (scale - s) = s := by omega
      rw [hq.unique (Nat.pow_pos (by decide)) (halfEven_roundDigits n (scale - s))]
      refine Nat.le_of_not_lt fun hlt => hj.fewest (scale - s) (by omega) ⟨hlt, ?_⟩
      rwa [hplaces]
  · intro h
    have hle := h.scale_le
    have hcoefficient {s q : Nat} (hq : HalfEven n (10 ^ (scale - s)) q) :
        q = roundDigits n (scale - s) :=
      hq.unique (Nat.pow_pos (by decide)) (halfEven_roundDigits n (scale - s))
    refine ⟨scale - p.scale, by omega, hcoefficient h.nearest, by omega, ?_⟩
    rintro i hi ⟨hlt, hmax⟩
    have hplaces : scale - (scale - i) = i := by omega
    have hlarge := h.greatest (scale - i) (roundDigits n i) (by omega) (by omega) hmax
      (by rw [hplaces]; exact halfEven_roundDigits n i)
    omega

/-- A product other than zero holds what a decimal can of it. -/
theorem mul?_eq_some_iff {a b : Decimal} (hne : a.coefficient * b.coefficient ≠ 0) :
    a.mul? b = some p ↔ p.negative = (a.negative != b.negative) ∧
      Held HalfEven (a.coefficient * b.coefficient) (a.scale + b.scale) p.coefficient p.scale := by
  have hfewest : ∀ i < 0, ¬ FitsWithout (a.coefficient * b.coefficient) (a.scale + b.scale) i :=
    fun i hi => absurd hi (Nat.not_lt_zero i)
  rw [mul?, if_neg hne, fit?_eq_some_iff (Nat.zero_add _) hfewest, exists_without_iff_held]

theorem halfEven_zero (unit : Nat) : HalfEven 0 unit 0 := ⟨by omega, by omega, fun _ => rfl⟩

/-- The whole part of a product of numbers that are not negative. -/
theorem exists_mul?_trunc_iff {a b : Decimal} (ha : a.negative = false) (hb : b.negative = false)
    {t : Int} :
    (∃ p, a.mul? b = some p ∧ p.trunc = t) ↔
      ∃ q s, Held HalfEven (a.coefficient * b.coefficient) (a.scale + b.scale) q s ∧
        ((q / 10 ^ s : Nat) : Int) = t := by
  by_cases hzero : a.coefficient * b.coefficient = 0
  · -- A product of zero gives up its places.
    have hmul : a.mul? b = some zero := by rw [mul?, if_pos hzero]
    rw [hmul, hzero]
    constructor
    · rintro ⟨p, hp, rfl⟩
      obtain rfl := Option.some.inj hp
      have hheld : Held HalfEven 0 (a.scale + b.scale) 0 (min (a.scale + b.scale) 28) :=
        ⟨by omega, by omega, halfEven_zero _, by decide, by omega⟩
      refine ⟨0, _, hheld, ?_⟩
      rw [Nat.zero_div]
      rfl
    · rintro ⟨q, s, hheld, rfl⟩
      obtain rfl := hheld.nearest.unique (Nat.pow_pos (by decide)) (halfEven_zero _)
      refine ⟨zero, rfl, ?_⟩
      rw [Nat.zero_div]
      rfl
  · have hsign : (a.negative != b.negative) = false := by rw [ha, hb, bne_self_eq_false]
    simp only [mul?_eq_some_iff hzero, hsign]
    constructor
    · rintro ⟨p, ⟨hpositive, hheld⟩, rfl⟩
      exact ⟨_, _, hheld, (trunc_of_not_negative hpositive).symm⟩
    · rintro ⟨q, s, hheld, rfl⟩
      exact ⟨⟨false, q, s, hheld.coefficient_lt, hheld.scale_le_max⟩, ⟨rfl, hheld⟩,
        trunc_of_not_negative rfl⟩

end Product

namespace Reading

open Text (digitValue ofDigits)

variable {r : Reading} {c : Char} {cs : List Char} {d : Decimal}

theorem of_finish_eq_some (hnegative : r.negative = false) (h : r.finish = some d) :
    d.negative = false ∧ d.coefficient = r.coefficient ∧ d.scale = r.scale := by
  unfold finish at h
  split at h
  · rw [hnegative, Bool.false_and] at h
    exact of?_eq_some h
  · cases h

theorem ofDigitChars_cons (c : Char) (cs : List Char) (n : Nat) :
    Nat.ofDigitChars 10 (c :: cs) n =
      n * (10 ^ cs.length * 10) + (digitValue c * 10 ^ cs.length + ofDigits cs) := by
  rw [Nat.ofDigitChars_eq_ofDigitChars_zero, ← Text.ofDigits_eq, ← List.singleton_append,
    Text.ofDigits_append, Text.ofDigits_singleton, List.singleton_append, List.length_cons,
    Nat.pow_succ, Nat.mul_comm n]

theorem mul_pow_le_ofDigitChars (cs : List Char) (n : Nat) :
    n * 10 ^ cs.length ≤ Nat.ofDigitChars 10 cs n := by
  rw [Nat.ofDigitChars_eq_ofDigitChars_zero, Nat.mul_comm]
  exact Nat.le_add_right _ _

/-- Once the next digit does not fit, or the places are used up, no further place can be held. -/
theorem bound_le_of_stop (hstop : 28 ≤ r.scale ∨ bound ≤ r.next c) {s q : Nat} (hs : r.scale < s)
    (hle : s ≤ r.scale + (c :: cs).length) (hmax : s ≤ 28)
    (hq : HalfUp (Nat.ofDigitChars 10 (c :: cs) r.coefficient)
      (10 ^ (r.scale + (c :: cs).length - s)) q) : bound ≤ q := by
  rcases hstop with hfull | hlarge
  · omega
  · refine hq.le_of_mul_le ?_
    rw [List.length_cons] at hle ⊢
    have hvalue : bound * 10 ^ (r.scale + (cs.length + 1) - s) ≤
        Nat.ofDigitChars 10 (c :: cs) r.coefficient :=
      calc bound * 10 ^ (r.scale + (cs.length + 1) - s)
          ≤ r.next c * 10 ^ cs.length :=
            Nat.mul_le_mul hlarge (Nat.pow_le_pow_right (by decide) (by omega))
        _ ≤ Nat.ofDigitChars 10 cs (r.next c) := mul_pow_le_ofDigitChars cs _
    exact (Nat.mul_le_mul_left 2 hvalue).trans (Nat.le_add_right _ _)

theorem halfUp_of_lt_five (hdigits : ∀ d ∈ c :: cs, d.isDigit = true) (n : Nat)
    (h : digitValue c < 5) :
    HalfUp (Nat.ofDigitChars 10 (c :: cs) n) (10 ^ (cs.length + 1)) n := by
  have hrest := Text.ofDigits_lt (List.forall_mem_cons.1 hdigits).2
  have hsmall := Nat.mul_le_mul_right (10 ^ cs.length) (Nat.le_of_lt_succ h)
  rw [HalfUp, ofDigitChars_cons, Nat.pow_succ]
  omega

theorem halfUp_of_five_le (hdigits : ∀ d ∈ c :: cs, d.isDigit = true) (n : Nat)
    (h : 5 ≤ digitValue c) :
    HalfUp (Nat.ofDigitChars 10 (c :: cs) n) (10 ^ (cs.length + 1)) (n + 1) := by
  obtain ⟨hc, hcs⟩ := List.forall_mem_cons.1 hdigits
  have hrest := Text.ofDigits_lt hcs
  have hlarge := Nat.mul_le_mul_right (10 ^ cs.length) h
  have hnine := Nat.mul_le_mul_right (10 ^ cs.length) (Nat.le_of_lt_succ (Text.digitValue_lt hc))
  rw [HalfUp, ofDigitChars_cons, Nat.pow_succ, Nat.add_one_mul n]
  omega

/-- Where the last digit that is kept is a five, it can go as well. -/
theorem halfUp_tenth (hdigits : ∀ d ∈ c :: cs, d.isDigit = true) {n q : Nat}
    (h : q * 10 = n + 5) :
    HalfUp (Nat.ofDigitChars 10 (c :: cs) n) (10 ^ (cs.length + 1 + 1)) q := by
  obtain ⟨hc, hcs⟩ := List.forall_mem_cons.1 hdigits
  have hrest := Text.ofDigits_lt hcs
  have hnine := Nat.mul_le_mul_right (10 ^ cs.length) (Nat.le_of_lt_succ (Text.digitValue_lt hc))
  have hproduct : q * (10 ^ cs.length * 10 * 10) = n * (10 ^ cs.length * 10) +
      5 * (10 ^ cs.length * 10) := by
    rw [Nat.mul_comm _ 10, ← Nat.mul_assoc, h, Nat.add_mul]
  rw [HalfUp, ofDigitChars_cons, Nat.pow_succ, Nat.pow_succ, hproduct]
  omega

/-- The digit after the last place that is kept decides which way it is rounded. -/
theorem held_of_roundBy (h : r.Fits) (hnegative : r.negative = false)
    (hdigits : ∀ d ∈ c :: cs, d.isDigit = true) (hstop : 28 ≤ r.scale ∨ bound ≤ r.next c)
    (hread : r.roundBy c cs = some d) :
    d.negative = false ∧ Held HalfUp (Nat.ofDigitChars 10 (c :: cs) r.coefficient)
      (r.scale + (c :: cs).length) d.coefficient d.scale := by
  have hall : (c :: cs).all isDigitOrGap = true :=
    List.all_eq_true.2 fun d hd => by rw [isDigitOrGap, hdigits d hd, Bool.true_or]
  have hgap : c ≠ '_' := Text.ne_of_isDigit (hdigits c List.mem_cons_self) (by decide)
  have hmax := h.scale_le
  have hgreatest : ∀ s q, r.scale < s → s ≤ r.scale + (c :: cs).length → s ≤ 28 →
      HalfUp (Nat.ofDigitChars 10 (c :: cs) r.coefficient)
        (10 ^ (r.scale + (c :: cs).length - s)) q → bound ≤ q :=
    fun _ _ => bound_le_of_stop hstop
  have hplaces : r.scale + (c :: cs).length - r.scale = cs.length + 1 :=
    Nat.add_sub_cancel_left _ _
  simp only [roundBy, hall, Bool.not_true, Bool.false_eq_true, if_false, hgap, decide_false,
    Bool.false_or, decide_eq_true_eq] at hread
  split_ifs at hread with hdown hup hscale
  · obtain ⟨hsign, hcoefficient, hscale⟩ := of_finish_eq_some hnegative hread
    rw [hcoefficient, hscale]
    refine ⟨hsign, Nat.le_add_right _ _, hmax, ?_, h.coefficient_lt, hgreatest⟩
    rw [hplaces]
    exact halfUp_of_lt_five hdigits _ hdown
  · obtain ⟨hsign, hcoefficient, hscale⟩ : d.negative = false ∧
        d.coefficient = r.coefficient + 1 ∧ d.scale = r.scale :=
      of_finish_eq_some (by exact hnegative) hread
    rw [hcoefficient, hscale]
    refine ⟨hsign, Nat.le_add_right _ _, hmax, ?_, hup, hgreatest⟩
    rw [hplaces]
    exact halfUp_of_five_le hdigits _ (Nat.not_lt.1 hdown)
  · -- All 96 bits are set, so one more place has to go, and the five at its end goes up.
    obtain ⟨hsign, hcoefficient, hscale'⟩ : d.negative = false ∧
        d.coefficient = (r.coefficient + 5) / 10 ∧ d.scale = r.scale - 1 :=
      of_finish_eq_some (by exact hnegative) hread
    have hfull : r.coefficient + 1 = bound := Nat.le_antisymm h.coefficient_lt (Nat.not_lt.1 hup)
    have htenth : (r.coefficient + 5) / 10 * 10 = r.coefficient + 5 := by
      rw [bound] at hfull
      omega
    rw [hcoefficient, hscale']
    refine ⟨hsign, by omega, by omega, ?_, by omega, ?_⟩
    · have hplaces' : r.scale + (c :: cs).length - (r.scale - 1) = cs.length + 1 + 1 := by omega
      rw [hplaces']
      exact halfUp_tenth hdigits htenth
    · intro s q hs hle hmax hq
      rcases Nat.lt_or_ge r.scale s with hlt | hge
      · exact hgreatest s q hlt hle hmax hq
      · obtain rfl : s = r.scale := by omega
        rw [hplaces] at hq
        rw [← hfull]
        exact hq.le_of_mul_le (halfUp_of_five_le hdigits _ (Nat.not_lt.1 hdown)).1

/-- Behind the point a row of digits is read as what a decimal can hold of it. -/
theorem held_of_read (h : r.Fits) (hnegative : r.negative = false) (hpointed : r.pointed = true)
    (hdigits : ∀ c ∈ cs, c.isDigit = true) (hread : r.read cs = some d) :
    d.negative = false ∧ Held HalfUp (Nat.ofDigitChars 10 cs r.coefficient)
      (r.scale + cs.length) d.coefficient d.scale := by
  induction cs generalizing r with
  | nil =>
    obtain ⟨hsign, hcoefficient, hscale⟩ := of_finish_eq_some hnegative hread
    rw [hcoefficient, hscale]
    exact ⟨hsign, .exact (halfUp_one _) h.coefficient_lt h.scale_le⟩
  | cons c cs ih =>
    obtain ⟨hc, hcs⟩ := List.forall_mem_cons.1 hdigits
    by_cases hroom : r.scale < 28
    · rw [read_cons (full_eq_false fun _ => hroom) hc] at hread
      by_cases hnext : r.next c < bound
      · rw [if_pos hnext] at hread
        have hheld := ih (fits_push hpointed hnext hroom) hnegative hpointed hcs hread
        rw [scale_push_of_pointed hpointed] at hheld
        rwa [List.length_cons, Nat.add_comm cs.length, ← Nat.add_assoc]
      · rw [if_neg hnext, if_pos hpointed] at hread
        exact held_of_roundBy h hnegative hdigits (.inr (Nat.not_lt.1 hnext)) hread
    · have hfull : r.full = true := by
        rw [full, hpointed, Bool.true_and, decide_eq_true_iff]
        exact Nat.not_lt.1 hroom
      have hgap : c ≠ '_' := Text.ne_of_isDigit hc (by decide)
      rw [read, if_pos hfull, decide_eq_false hgap, Bool.false_and, if_neg Bool.false_ne_true]
        at hread
      exact held_of_roundBy h hnegative hdigits (.inl (Nat.not_lt.1 hroom)) hread

end Reading

namespace Spelled

variable {s : String} {m k : Nat} {d : Decimal}

theorem held_of_read? (h : Spelled s.toList m k) (hread : read? s = some d) :
    d.negative = false ∧ Held HalfUp m k d.coefficient d.scale := by
  rw [h.read?_eq] at hread
  generalize s.toList = cs at h hread
  cases h with
  | whole h =>
    obtain ⟨hne, hdigits, rfl⟩ := Text.natural?_eq_some_iff.1 h
    by_cases hfits : Text.ofDigits cs < bound
    · obtain ⟨r, hread', hnegative, hcoefficient, hscale, -, hstarted⟩ :=
        Reading.exists_after_whole hne hdigits hfits
      have hend := hread' []
      rw [List.append_nil, hread, Reading.read, Reading.finish_eq_of? hstarted hnegative,
        hcoefficient, hscale] at hend
      obtain ⟨hsign, hm, hk⟩ := of?_eq_some hend.symm
      rw [hm, hk]
      exact ⟨hsign, .exact (halfUp_one _) hfits (by decide)⟩
    · rw [Text.ofDigits_eq] at hfits
      have hnone :=
        Reading.read_eq_none (r := { negative := false }) hdigits rfl (by decide)
          (Nat.not_lt.1 hfits) []
      rw [List.append_nil, hread] at hnone
      cases hnone
  | @point whole places _ hwhole hplaces h =>
    obtain ⟨-, hdigits, rfl⟩ := Text.natural?_eq_some_iff.1 h
    obtain ⟨hwholes, hplace⟩ := List.forall_mem_append.1 hdigits
    by_cases hfits : Text.ofDigits whole < bound
    · obtain ⟨r, hread', hnegative, hcoefficient, hscale, hpointed, hstarted⟩ :=
        Reading.exists_after_point hwhole hwholes hfits
      have hr : r.Fits := ⟨hstarted, by rwa [hcoefficient], by omega⟩
      rw [hread'] at hread
      have hheld := Reading.held_of_read hr hnegative hpointed hplace hread
      rwa [hscale, Nat.zero_add, hcoefficient, Text.ofDigits_eq, ← Nat.ofDigitChars_append,
        ← Text.ofDigits_eq] at hheld
    · rw [Text.ofDigits_eq] at hfits
      have hnone := Reading.read_eq_none (r := { negative := false }) hwholes rfl (by decide)
        (Nat.not_lt.1 hfits) ('.' :: places)
      rw [hread] at hnone
      cases hnone

/-- A numeral of ASCII digits is read as what a decimal can hold of it, a half rounded up. -/
theorem read?_eq_some_iff (h : Spelled s.toList m k) :
    read? s = some d ↔ d.negative = false ∧ Held HalfUp m k d.coefficient d.scale := by
  refine ⟨h.held_of_read?, ?_⟩
  rintro ⟨hsign, hheld⟩
  have hfits : (read? s).isSome = true := by
    rw [h.isSome_read?_iff]
    have hpower := Nat.pow_le_pow_right (n := 10) (by decide) (Nat.sub_le k d.scale)
    obtain ⟨more, hmore⟩ := Nat.exists_eq_add_of_le hpower
    obtain ⟨-, hlt⟩ := hheld.nearest
    have hbound := Nat.mul_le_mul_right (10 ^ (k - d.scale)) (Nat.succ_le_of_lt d.coefficient_lt)
    have hpositive : 1 * more ≤ bound * more := Nat.mul_le_mul_right more (by decide)
    rw [Nat.succ_mul] at hbound
    rw [hmore, Nat.mul_assoc, Nat.mul_add]
    omega
  obtain ⟨d', hd'⟩ := Option.isSome_iff_exists.1 hfits
  obtain ⟨hsign', hheld'⟩ := h.held_of_read? hd'
  obtain ⟨hcoefficient, hscale⟩ := hheld.unique hheld' fun _ => HalfUp.unique
  have hsame : some d = some d' :=
    (of?_eq_some_iff.2 ⟨hsign, hcoefficient, hscale⟩).symm.trans
      (of?_eq_some_iff.2 ⟨hsign', rfl, rfl⟩)
  rw [hd', hsame]

end Spelled

end SearchBox.Decimal
