import SearchBox.Proofs.Decimal.Rounding
import SearchBox.Proofs.IssueGrammar.Parts

namespace SearchBox.IssueGrammar

open Decimal (Spelled Held HalfUp HalfEven)

/-- The milliseconds of a unit of time. -/
inductive UnitLasts : String → Nat → Prop
  | second {unit : String} (h : unit ∈ ["sec", "secs", "second", "seconds"]) : UnitLasts unit 1000
  | minute {unit : String} (h : unit ∈ ["min", "mins", "minute", "minutes"]) : UnitLasts unit 60000
  | hour {unit : String} (h : unit ∈ ["hr", "hrs", "hour", "hours"]) : UnitLasts unit 3600000
  | day {unit : String} (h : unit ∈ ["day", "days"]) : UnitLasts unit 86400000
  | week {unit : String} (h : unit ∈ ["wk", "wks", "week", "weeks"]) : UnitLasts unit 604800000

/-- The first millisecond of the day of `now`, the days beginning at multiples of their length. -/
structure DayStart (now start : Int) : Prop where
  le : start ≤ now
  lt : now < start + 86400000
  dvd : (86400000 : Int) ∣ start

/-- `m / 10 ^ k` units of `u` milliseconds make `span` whole milliseconds: the number and then the
product are rounded to what a decimal holds, and what is left of a millisecond is cut off. -/
def Lasts (m k u span : Nat) : Prop :=
  ∃ amount places product left, Held HalfUp m k amount places ∧
    Held HalfEven (amount * u) places product left ∧ product / 10 ^ left = span

variable {now start start' : Int} {count unit : String} {m k u : Nat}

theorem unitMillis?_eq_some_iff : unitMillis? unit = some u ↔ UnitLasts unit u := by
  constructor
  · intro h
    unfold unitMillis? at h
    simp only [List.contains_iff_mem] at h
    split_ifs at h with hsecond hminute hhour hday hweek <;> cases h
    · exact .second hsecond
    · exact .minute hminute
    · exact .hour hhour
    · exact .day hday
    · exact .week hweek
  · have hall (words : List String) (u : Nat)
        (h : (words.all fun unit => unitMillis? unit == some u) = true) :
        ∀ unit ∈ words, unitMillis? unit = some u :=
      fun unit hunit => eq_of_beq (List.all_eq_true.1 h unit hunit)
    rintro (h | h | h | h | h)
    · exact hall _ 1000 (by decide) unit h
    · exact hall _ 60000 (by decide) unit h
    · exact hall _ 3600000 (by decide) unit h
    · exact hall _ 86400000 (by decide) unit h
    · exact hall _ 604800000 (by decide) unit h

theorem exists_unitLasts (h : unit ∈ units) : ∃ u, UnitLasts unit u := by
  have hall : ∀ unit ∈ units, (unitMillis? unit).isSome = true := by decide
  obtain ⟨u, hu⟩ := Option.isSome_iff_exists.1 (hall unit h)
  exact ⟨u, unitMillis?_eq_some_iff.1 hu⟩

theorem UnitLasts.bounds (h : UnitLasts unit u) : 0 < u ∧ u < Decimal.bound := by
  cases h <;> decide

theorem dayStart_today (now : Int) : DayStart now (today now) := by
  have hday : (day : Int) = 86400000 := rfl
  rw [today, hday]
  exact ⟨by omega, by omega, by omega⟩

theorem DayStart.unique (h : DayStart now start) (h' : DayStart now start') : start = start' := by
  obtain ⟨hle, hlt, hdvd⟩ := h
  obtain ⟨hle', hlt', hdvd'⟩ := h'
  omega

theorem Lasts.unique {span span' : Nat} (h : Lasts m k u span) (h' : Lasts m k u span') :
    span = span' := by
  obtain ⟨amount, places, product, left, hamount, hproduct, rfl⟩ := h
  obtain ⟨amount', places', product', left', hamount', hproduct', rfl⟩ := h'
  obtain ⟨rfl, rfl⟩ := hamount.unique hamount' fun _ => HalfUp.unique
  obtain ⟨rfl, rfl⟩ := hproduct.unique hproduct' HalfEven.unique
  rfl

/-- Where a decimal holds the number and the product, nothing is rounded. -/
theorem lasts_of_lt (hm : m < Decimal.bound) (hproduct : m * u < Decimal.bound) (hk : k ≤ 28) :
    Lasts m k u (m * u / 10 ^ k) :=
  ⟨m, k, m * u, k, .exact (Decimal.halfUp_one m) hm hk,
    .exact (Decimal.halfEven_one (m * u)) hproduct hk, rfl⟩

theorem exists_trunc_iff_lasts (hcount : Spelled count.toList m k) (hu : u < Decimal.bound)
    (span : Int) :
    (∃ amount length product, Decimal.read? count = some amount ∧
      Decimal.of? false u 0 = some length ∧ amount.mul? length = some product ∧
        product.trunc = span) ↔ ∃ n : Nat, Lasts m k u n ∧ (n : Int) = span := by
  constructor
  · rintro ⟨amount, length, product, hamount, hlength, hproduct⟩
    obtain ⟨hsign, hheld⟩ := hcount.read?_eq_some_iff.1 hamount
    obtain ⟨hpositive, rfl, hwhole⟩ := Decimal.of?_eq_some hlength
    obtain ⟨q, s, hq, hspan⟩ :=
      (Decimal.exists_mul?_trunc_iff hsign hpositive).1 ⟨product, hproduct⟩
    rw [hwhole, Nat.add_zero] at hq
    exact ⟨_, ⟨_, _, q, s, hheld, hq, rfl⟩, hspan⟩
  · rintro ⟨-, ⟨amount, places, product, left, hamount, hproduct, rfl⟩, hspan⟩
    obtain ⟨length, hlength⟩ := Decimal.exists_of?_eq_some false hu (Nat.zero_le 28)
    obtain ⟨hpositive, rfl, hwhole⟩ := Decimal.of?_eq_some hlength
    let d : Decimal := ⟨false, amount, places, hamount.coefficient_lt, hamount.scale_le_max⟩
    have hread : Decimal.read? count = some d := hcount.read?_eq_some_iff.2 ⟨rfl, hamount⟩
    obtain ⟨p, hp⟩ := (Decimal.exists_mul?_trunc_iff (a := d) rfl hpositive).2
      ⟨product, left, by rwa [hwhole, Nat.add_zero], hspan⟩
    exact ⟨d, length, p, hread, hlength, hp⟩

/-- The time so many units ago, if the span and the time fit 64 bits. -/
theorem ago?_eq_some_iff (hcount : Spelled count.toList m k) (hunit : UnitLasts unit u)
    (hnow : Text.fitsInt64 now = true) {rest : List String} {time : Int} :
    ago? now (count :: unit :: rest) = some time ↔
      ∃ span : Nat, Lasts m k u span ∧ span ≤ 0x7FFFFFFFFFFFFFFF ∧ -0x8000000000000000 ≤ time ∧
        now - span = time := by
  have hmillis := unitMillis?_eq_some_iff.2 hunit
  have htrunc := exists_trunc_iff_lasts hcount hunit.bounds.2
  rw [Text.fitsInt64_iff] at hnow
  simp only [ago?, hmillis, Decimal.toInt64?, Option.bind_eq_bind, Option.bind_some,
    Option.bind_eq_some_iff, Option.filter_eq_some_iff, Option.some.injEq, Text.fitsInt64_iff]
  constructor
  · rintro ⟨amount, hamount, length, hlength, product, hproduct, span, ⟨hspan, hfits⟩, htime,
      hback⟩
    obtain ⟨n, hlasts, rfl⟩ := (htrunc span).1 ⟨amount, length, product, hamount, hlength, hproduct,
      hspan⟩
    exact ⟨n, hlasts, by omega, hback.1, htime⟩
  · rintro ⟨span, hlasts, hfits, hback, htime⟩
    obtain ⟨amount, length, product, hamount, hlength, hproduct, hspan⟩ :=
      (htrunc span).2 ⟨span, hlasts, rfl⟩
    exact ⟨amount, hamount, length, hlength, product, hproduct, span, ⟨hspan, by omega⟩, htime,
      by omega⟩

/-- No span of 64 bits leads back to a time of 64 bits. -/
def FarAgo (now : Int) (m k u : Nat) : Prop :=
  ∀ span : Nat, Lasts m k u span → span ≤ 0x7FFFFFFFFFFFFFFF → now - span < -0x8000000000000000

theorem ago?_eq_none_iff (hcount : Spelled count.toList m k) (hunit : UnitLasts unit u)
    (hnow : Text.fitsInt64 now = true) {rest : List String} :
    ago? now (count :: unit :: rest) = none ↔ FarAgo now m k u := by
  rw [Option.eq_none_iff_forall_ne_some]
  simp only [ne_eq, ago?_eq_some_iff hcount hunit hnow]
  constructor
  · intro hnone span hlasts hspan
    by_contra hback
    exact hnone _ ⟨span, hlasts, hspan, Int.not_lt.1 hback, rfl⟩
  · rintro hfar time ⟨span, hlasts, hspan, hback, rfl⟩
    exact absurd (hfar span hlasts hspan) (Int.not_lt.2 hback)

end SearchBox.IssueGrammar
