import SearchBox.Proofs.Decimal
import SearchBox.Proofs.IssueGrammar.Parts
import SearchBox.Proofs.Text.Normalize

namespace SearchBox

namespace Text

/-- In ASCII, what passes for a number is a numeral. -/
theorem exists_spelled_of_isFixedPoint {cs : List Char} (hascii : ∀ c ∈ cs, c.toNat < 128)
    (h : isFixedPoint cs = true) : ∃ m k, Decimal.Spelled cs m k := by
  rcases parts_of_isFixedPoint h with hall | ⟨whole, places, rfl, hwhole, hplaces⟩
  · exact ⟨_, _, .whole (natural?_of_allDigits hascii hall)⟩
  · obtain ⟨hasciiWhole, hasciiPoint⟩ := List.forall_mem_append.1 hascii
    obtain ⟨-, hasciiPlaces⟩ := List.forall_mem_cons.1 hasciiPoint
    obtain ⟨hne, hdigits, -⟩ :=
      natural?_eq_some_iff.1 (natural?_of_allDigits hasciiWhole hwhole)
    obtain ⟨hplace, hdigits', -⟩ :=
      natural?_eq_some_iff.1 (natural?_of_allDigits hasciiPlaces hplaces)
    have hvalue : natural? (whole ++ places) = some (ofDigits (whole ++ places)) :=
      natural?_eq_some_iff.2 ⟨List.append_ne_nil_of_left_ne_nil hne places,
        List.forall_mem_append.2 ⟨hdigits, hdigits'⟩, rfl⟩
    exact ⟨_, _, .point hne hplace hvalue⟩

end Text

namespace IssueGrammar

/-- What a numeral with the digits of `m`, the last `k` of them behind the point, is read as: itself
if 96 bits and 28 places hold it, else a decimal if it rounds to a whole number of 96 bits, else its
text. -/
inductive ReadsNumber (word : String) (m k : Nat) : Value → Prop
  | exact {d : Decimal} (hsign : d.negative = false) (hm : d.coefficient = m) (hk : d.scale = k) :
      ReadsNumber word m k (.decimal d)
  | rounded {d : Decimal} (hlong : Decimal.bound ≤ m ∨ 28 < k)
      (hfits : 2 * m + 10 ^ k < 2 * Decimal.bound * 10 ^ k) : ReadsNumber word m k (.decimal d)
  | tooLarge (hlarge : 2 * Decimal.bound * 10 ^ k ≤ 2 * m + 10 ^ k) :
      ReadsNumber word m k (.text word)

variable {word : String}

theorem ascii_of_all (h : word.toList.all (·.toNat < 128) = true) :
    ∀ c ∈ word.toList, c.toNat < 128 :=
  fun c hc => of_decide_eq_true (List.all_eq_true.1 h c hc)

theorem readsNumber_of_spelled {m k : Nat} (h : Decimal.Spelled word.toList m k) :
    ReadsNumber word m k (readNumber word) := by
  have hfits := h.isSome_read?_iff
  rw [readNumber]
  cases hread : Decimal.read? word with
  | none =>
    rw [hread] at hfits
    exact .tooLarge (Nat.not_lt.1 fun hlt => nomatch hfits.2 hlt)
  | some d =>
    by_cases hexact : m < Decimal.bound ∧ k ≤ 28
    · obtain ⟨d', hd', hsign, hm, hk⟩ := h.exists_read?_eq hexact.1 hexact.2
      obtain rfl := Option.some.inj (hread.symm.trans hd')
      exact .exact hsign hm hk
    · rw [hread] at hfits
      exact .rounded (by omega) (hfits.1 rfl)

theorem readTimestamp_of_natural? {n : Nat} (h : Text.natural? word.toList = some n) :
    readTimestamp word = if n < 0x8000000000000000 then .integer n else .text word := by
  have hfits : Text.fitsInt64 (n : Int) = true ↔ n < 0x8000000000000000 := by
    rw [Text.fitsInt64_iff]
    omega
  simp only [readTimestamp, Text.integer?_of_natural? h, Option.filter_some, hfits]
  split_ifs <;> rfl

/-- The long `ſ` aside, a user's name in any letter case is that user's name. -/
theorem lowerCase_of_userWord (hascii : ∀ c ∈ word.toList, c.toNat < 128)
    (h : userWord word = true) :
    Text.lowerCase word = "user1" ∨ Text.lowerCase word = "user2" := by
  unfold userWord at h
  split at h
  · rename_i u s e r n hword
    simp only [Bool.and_eq_true, List.contains_iff_mem, List.mem_cons, List.not_mem_nil,
      or_false] at h
    obtain ⟨⟨⟨⟨hu, hs⟩, he⟩, hr⟩, hn⟩ := h
    have hs : s = 's' ∨ s = 'S' := by
      rcases hs with rfl | rfl | rfl
      · exact .inl rfl
      · exact .inr rfl
      · exact absurd (hascii 'ſ' (by simp [hword])) (by decide)
    have hu : Text.LowersTo u 'u' := by rcases hu with rfl | rfl <;> decide +kernel
    have hs : Text.LowersTo s 's' := by rcases hs with rfl | rfl <;> decide +kernel
    have he : Text.LowersTo e 'e' := by rcases he with rfl | rfl <;> decide +kernel
    have hr : Text.LowersTo r 'r' := by rcases hr with rfl | rfl <;> decide +kernel
    have hlower {d : Char} (hd : Text.LowersTo n d) :
        Text.lowerCase word = String.ofList ['u', 's', 'e', 'r', d] := by
      rw [Text.lowerCase, Text.lower, hword, Text.lowerAfter_of_lowersTo
        (.cons hu <| .cons hs <| .cons he <| .cons hr <| .cons hd .nil)]
    rcases hn with rfl | rfl
    · exact .inl (hlower (by decide +kernel))
    · exact .inr (hlower (by decide +kernel))
  · cases h

/-- A word that a type accepts is read as a value of its kind, unless it is a number too large for
that. Of the words with characters beyond ASCII nothing is said. -/
theorem accepted_words_are_read (now : Int) :
    ∃ g number timestamp user, build now = .ok g ∧ g.types.get "number" = .ok number ∧
      g.types.get "timestamp" = .ok timestamp ∧ g.types.get "user" = .ok user ∧
      ∀ word : String, (∀ c ∈ word.toList, c.toNat < 128) →
        (number.accepts word = true → ∃ m k, Decimal.Spelled word.toList m k ∧
          ReadsNumber word m k (number.read word)) ∧
        (timestamp.accepts word = true → ∃ n, Text.natural? word.toList = some n ∧
          timestamp.read word = if n < 0x8000000000000000 then .integer n else .text word) ∧
        (user.accepts word = true →
          user.read word = .text "user1" ∨ user.read word = .text "user2") := by
  refine ⟨grammar now, numberType, timestampType, userType, build_eq_ok now, rfl, rfl, rfl,
    fun word hascii => ⟨fun h => ?_, fun h => ?_, fun h => ?_⟩⟩
  · obtain ⟨m, k, hspelled⟩ := Text.exists_spelled_of_isFixedPoint hascii h
    exact ⟨m, k, hspelled, readsNumber_of_spelled hspelled⟩
  · have hnatural := Text.natural?_of_allDigits hascii h
    exact ⟨_, hnatural, readTimestamp_of_natural? hnatural⟩
  · rcases lowerCase_of_userWord hascii h with hone | htwo
    · exact .inl (congrArg Value.text hone)
    · exact .inr (congrArg Value.text htwo)

theorem accepted_words_are_read_some :
    ∃ g number timestamp user, build 1700000000000 = .ok g ∧ g.types.get "number" = .ok number ∧
      g.types.get "timestamp" = .ok timestamp ∧ g.types.get "user" = .ok user ∧
      (∃ m k, Decimal.Spelled "1.50".toList m k ∧ ReadsNumber "1.50" m k (number.read "1.50")) ∧
      (∃ n, Text.natural? "0042".toList = some n ∧
        timestamp.read "0042" = if n < 0x8000000000000000 then .integer n else .text "0042") ∧
      (user.read "uSER2" = .text "user1" ∨ user.read "uSER2" = .text "user2") := by
  obtain ⟨g, number, timestamp, user, hbuild, hnumber, htimestamp, huser, hread⟩ :=
    accepted_words_are_read 1700000000000
  obtain rfl := Except.ok.inj ((build_eq_ok _).symm.trans hbuild)
  obtain rfl := Except.ok.inj hnumber
  obtain rfl := Except.ok.inj htimestamp
  obtain rfl := Except.ok.inj huser
  refine ⟨_, _, _, _, hbuild, hnumber, htimestamp, huser, ?_, ?_, ?_⟩
  · exact (hread "1.50" (ascii_of_all (by decide))).1 rfl
  · exact (hread "0042" (ascii_of_all (by decide))).2.1 rfl
  · exact (hread "uSER2" (ascii_of_all (by decide))).2.2 rfl

/-- Beyond 64 bits a count of milliseconds stays text, and so does a number beyond 96 bits. -/
theorem accepted_words_left_as_text :
    ∃ g number timestamp, build 1700000000000 = .ok g ∧ g.types.get "number" = .ok number ∧
      g.types.get "timestamp" = .ok timestamp ∧
      timestamp.accepts "9223372036854775808" = true ∧
      (∀ n, timestamp.read "9223372036854775808" ≠ .integer n) ∧
      number.accepts "79228162514264337593543950336" = true ∧
      ∀ d, number.read "79228162514264337593543950336" ≠ .decimal d := by
  refine ⟨_, _, _, build_eq_ok _, rfl, rfl, rfl, fun n h => ?_, rfl, fun d h => ?_⟩
  · have htext : Value.text "9223372036854775808" = .integer n := h
    cases htext
  · have htext : Value.text "79228162514264337593543950336" = .decimal d := h
    cases htext

end IssueGrammar

end SearchBox
