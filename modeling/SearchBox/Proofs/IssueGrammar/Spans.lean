import SearchBox.Proofs.IssueGrammar.Timestamps

namespace SearchBox

namespace IssueGrammar

/-- A numeral that spells `m`, with `k` places, counts units of `u` milliseconds, and 96 bits hold
the product. -/
structure Span (count unit : String) (m u k : Nat) : Prop where
  spelled : Decimal.Spelled count.toList m k
  unit_lasts : UnitLasts unit u
  scale_le : k ≤ 28
  product_lt : m * u < Decimal.bound

variable {now : Int} {count unit : String} {m u k : Nat}

theorem div_le_div_of_mul_le_mul {a b c d : Nat} (hb : 0 < b) (hd : 0 < d)
    (h : a * d ≤ c * b) : a / b ≤ c / d := by
  rw [Nat.le_div_iff_mul_le hd]
  refine Nat.le_of_mul_le_mul_right ?_ hb
  calc a / b * d * b
      = a / b * b * d := Nat.mul_right_comm _ _ _
    _ ≤ a * d := Nat.mul_le_mul_right d (Nat.div_mul_le_self a b)
    _ ≤ c * b := h

namespace Span

theorem coefficient_lt (h : Span count unit m u k) : m < Decimal.bound :=
  Nat.lt_of_le_of_lt (Nat.le_mul_of_pos_right m h.unit_lasts.bounds.1) h.product_lt

theorem lasts (h : Span count unit m u k) : Lasts m k u (m * u / 10 ^ k) :=
  lasts_of_lt h.coefficient_lt h.product_lt h.scale_le

theorem ago?_eq_some_iff (h : Span count unit m u k) (hnow : Text.fitsInt64 now = true)
    (time : Int) :
    ago? now [count, unit, "ago"] = some time ↔
      (m * u / 10 ^ k ≤ 0x7FFFFFFFFFFFFFFF ∧
        -0x8000000000000000 ≤ now - (m * u / 10 ^ k : Nat)) ∧
      now - (m * u / 10 ^ k : Nat) = time := by
  rw [IssueGrammar.ago?_eq_some_iff h.spelled h.unit_lasts hnow]
  constructor
  · rintro ⟨span, hlasts, hspan, hback, rfl⟩
    rw [h.lasts.unique hlasts]
    exact ⟨⟨hspan, hback⟩, rfl⟩
  · rintro ⟨⟨hspan, hback⟩, rfl⟩
    exact ⟨_, h.lasts, hspan, hback, rfl⟩

theorem resolveAgo_eq (h : Span count unit m u k) (hnow : Text.fitsInt64 now = true) :
    resolveAgo now [count, unit, "ago"] =
      if m * u / 10 ^ k ≤ 0x7FFFFFFFFFFFFFFF ∧
          -0x8000000000000000 ≤ now - (m * u / 10 ^ k : Nat) then
        .integer (now - (m * u / 10 ^ k : Nat))
      else .text (count ++ " " ++ unit ++ " ago") := by
  have hago := h.ago?_eq_some_iff hnow
  rw [resolveAgo]
  split_ifs with hfits
  · rw [(hago _).2 ⟨hfits, rfl⟩]
  · rw [Option.eq_none_iff_forall_ne_some.2 fun time htime => hfits ((hago time).1 htime).1]
    exact congrArg Value.text (intercalate_ago count unit)

theorem fitsInt64_of_resolveAgo (h : Span count unit m u k) (hnow : Text.fitsInt64 now = true)
    {time : Int} (htime : resolveAgo now [count, unit, "ago"] = .integer time) :
    Text.fitsInt64 time = true := by
  rw [h.resolveAgo_eq hnow] at htime
  rw [Text.fitsInt64_iff] at hnow ⊢
  generalize m * u / 10 ^ k = span at htime
  split_ifs at htime with hfits
  obtain rfl := Value.integer.inj htime
  omega

/-- What leads back to a time at all leads back no further than a longer span does. -/
theorem exists_resolveAgo_of_le {count' unit' : String} {m' u' k' : Nat}
    (h : Span count unit m u k) (h' : Span count' unit' m' u' k')
    (hnow : Text.fitsInt64 now = true) (hle : m * u * 10 ^ k' ≤ m' * u' * 10 ^ k) {time' : Int}
    (htime' : resolveAgo now [count', unit', "ago"] = .integer time') :
    ∃ time, resolveAgo now [count, unit, "ago"] = .integer time ∧ time' ≤ time := by
  have hspan : m * u / 10 ^ k ≤ m' * u' / 10 ^ k' := div_le_div_of_mul_le_mul
    (Nat.pow_pos (by decide)) (Nat.pow_pos (by decide)) hle
  rw [h'.resolveAgo_eq hnow] at htime'
  rw [h.resolveAgo_eq hnow]
  generalize m * u / 10 ^ k = span at hspan ⊢
  generalize m' * u' / 10 ^ k' = span' at hspan htime'
  split_ifs at htime' with hfits
  obtain rfl := Value.integer.inj htime'
  refine ⟨now - span, if_pos ?_, ?_⟩ <;> omega

end Span

theorem exists_ago_phrase (now : Int) :
    ∃ p ∈ (grammar now).phrases, p.slots = agoSlots ∧ p.resolver = some (resolveAgo now) :=
  ⟨_, List.mem_cons_self, rfl, rfl⟩

/-- So many units ago is the clock less the span in whole milliseconds, as long as both fit 64 bits,
and otherwise the words themselves. Of two spans the longer leads back at least as far. -/
theorem ago_is_exact (hnow : Text.fitsInt64 now = true) :
    ∃ g p, build now = .ok g ∧ p ∈ g.phrases ∧
      p.slots = [.parameter numberType, .keyword units, .keyword ["ago"]] ∧
      (∀ unit ∈ units, ∃ u, UnitLasts unit u) ∧
      (∀ count unit m u k, Span count unit m u k →
        p.resolve [count, unit, "ago"] =
          if m * u / 10 ^ k ≤ 0x7FFFFFFFFFFFFFFF ∧
              -0x8000000000000000 ≤ now - (m * u / 10 ^ k : Nat) then
            .integer (now - (m * u / 10 ^ k : Nat))
          else .text (count ++ " " ++ unit ++ " ago")) ∧
      (∀ count unit m u k time, Span count unit m u k →
        p.resolve [count, unit, "ago"] = .integer time → Text.fitsInt64 time = true) ∧
      ∀ count unit m u k count' unit' m' u' k' time', Span count unit m u k →
        Span count' unit' m' u' k' → m * u * 10 ^ k' ≤ m' * u' * 10 ^ k →
        p.resolve [count', unit', "ago"] = .integer time' →
          ∃ time, p.resolve [count, unit, "ago"] = .integer time ∧ time' ≤ time := by
  obtain ⟨p, hp, hslots, hresolver⟩ := exists_ago_phrase now
  have hresolve := Phrase.resolve_of_resolver hresolver
  refine ⟨grammar now, p, build_eq_ok now, hp, hslots, fun _ => exists_unitLasts, ?_, ?_, ?_⟩
  · intro count unit m u k h
    rw [hresolve]
    exact h.resolveAgo_eq hnow
  · intro count unit m u k time h htime
    rw [hresolve] at htime
    exact h.fitsInt64_of_resolveAgo hnow htime
  · intro count unit m u k count' unit' m' u' k' time' h h' hle htime'
    rw [hresolve] at htime' ⊢
    exact h.exists_resolveAgo_of_le h' hnow hle htime'

theorem ago_is_exact_fraction :
    ∃ g p, build 1700000000000 = .ok g ∧ p ∈ g.phrases ∧
      p.resolve ["1", "week", "ago"] = .integer 1699395200000 ∧
      p.resolve ["1.5", "days", "ago"] = .integer 1699870400000 ∧
      p.resolve ["0.0015", "secs", "ago"] = .integer 1699999999999 := by
  obtain ⟨g, p, hbuild, hp, -, -, hresolve, -⟩ := @ago_is_exact 1700000000000 (by decide)
  have hone : Decimal.Spelled ['1'] 1 0 := .whole rfl
  have hhalf : Decimal.Spelled (['1'] ++ '.' :: ['5']) 15 1 :=
    .point (by decide) (by decide) rfl
  have hsmall : Decimal.Spelled (['0'] ++ '.' :: ['0', '0', '1', '5']) 15 4 :=
    .point (by decide) (by decide) rfl
  have hweek : Span "1" "week" 1 604800000 0 := ⟨hone, .week (by decide), by decide, by decide⟩
  have hdays : Span "1.5" "days" 15 86400000 1 := ⟨hhalf, .day (by decide), by decide, by decide⟩
  have hsecs : Span "0.0015" "secs" 15 1000 4 :=
    ⟨hsmall, .second (by decide), by decide, by decide⟩
  exact ⟨g, p, hbuild, hp, hresolve _ _ _ _ _ hweek, hresolve _ _ _ _ _ hdays,
    hresolve _ _ _ _ _ hsecs⟩

end IssueGrammar

end SearchBox
