import SearchBox.Proofs.Completion.Arguments
import SearchBox.Proofs.IssueGrammar.Clock
import SearchBox.Proofs.IssueGrammar.Types
import SearchBox.Proofs.Predicate.Reopening

namespace SearchBox

namespace Phrase

variable {p : Phrase} {words : List String}

theorem resolve_of_resolver {resolver : List String → Value} (h : p.resolver = some resolver)
    (words : List String) : p.resolve words = resolver words := by
  simp only [resolve, h]

theorem resolve_of_parameter {t : DataType} (hslots : p.slots = [.parameter t])
    (h : p.resolver = none) (word : String) : p.resolve [word] = t.read word := by
  simp only [resolve, h, hslots]

theorem Reads.eq_of_keyword {word : String} (h : p.Reads words)
    (hslots : p.slots = [.keyword [word]]) : words = [word] := by
  rw [Reads, hslots] at h
  obtain ⟨w, rest, hw, hrest, rfl⟩ := List.forall₂_cons_left_iff.1 h
  rw [List.forall₂_nil_left_iff.1 hrest]
  simpa [Slot.accepts] using hw

theorem Reads.exists_of_parameter {t : DataType} (h : p.Reads words)
    (hslots : p.slots = [.parameter t]) : ∃ word, words = [word] ∧ t.accepts word = true := by
  rw [Reads, hslots] at h
  obtain ⟨w, rest, hw, hrest, rfl⟩ := List.forall₂_cons_left_iff.1 h
  rw [List.forall₂_nil_left_iff.1 hrest]
  exact ⟨w, rfl, hw⟩

theorem Reads.exists_of_ago (h : p.Reads words) (hslots : p.slots = IssueGrammar.agoSlots) :
    ∃ count unit, words = [count, unit, "ago"] ∧ IssueGrammar.numberWord count = true ∧
      unit ∈ IssueGrammar.units := by
  rw [Reads, hslots] at h
  obtain ⟨count, _, hcount, hunits, rfl⟩ := List.forall₂_cons_left_iff.1 h
  obtain ⟨unit, _, hunit, hago, rfl⟩ := List.forall₂_cons_left_iff.1 hunits
  obtain ⟨ago, _, hkeyword, hrest, rfl⟩ := List.forall₂_cons_left_iff.1 hago
  obtain rfl := List.forall₂_nil_left_iff.1 hrest
  obtain rfl : ago = "ago" := by simpa [Slot.accepts] using hkeyword
  exact ⟨count, unit, rfl, hcount, List.contains_iff_mem.1 hunit⟩

end Phrase

namespace IssueGrammar

open Decimal (Spelled)

/-- The words that can stand for a time, and what they are read as. -/
inductive ReadsTime (now : Int) : List String → Value → Prop
  | now : ReadsTime now ["now"] (.integer now)
  | today {start : Int} (h : DayStart now start) : ReadsTime now ["today"] (.integer start)
  | yesterday {start : Int} (h : DayStart now start) :
      ReadsTime now ["yesterday"] (.integer (start - 86400000))
  | epoch {word : String} {n : Nat} (h : Text.natural? word.toList = some n)
      (hn : n < 0x8000000000000000) : ReadsTime now [word] (.integer n)
  | ago {count unit : String} {m k u span : Nat} (hcount : Spelled count.toList m k)
      (hunit : UnitLasts unit u) (h : Lasts m k u span) (hspan : span ≤ 0x7FFFFFFFFFFFFFFF)
      (hback : -0x8000000000000000 ≤ now - span) :
      ReadsTime now [count, unit, "ago"] (.integer (now - span))
  | lateEpoch {word : String} {n : Nat} (h : Text.natural? word.toList = some n)
      (hn : 0x8000000000000000 ≤ n) : ReadsTime now [word] (.text word)
  | farAgo {count unit : String} {m k u : Nat} (hcount : Spelled count.toList m k)
      (hunit : UnitLasts unit u) (h : FarAgo now m k u) :
      ReadsTime now [count, unit, "ago"] (.text (count ++ " " ++ unit ++ " ago"))
  | number {word : String} {m k : Nat} {value : Value} (hpoint : '.' ∈ word.toList)
      (hword : Spelled word.toList m k) (h : ReadsNumber word m k value) :
      ReadsTime now [word] value

/-- Arguments that are no count of milliseconds in 64 bits: a number with places, a count that is
too large, and a span that is too long or goes back too far. -/
inductive Uncounted (now : Int) : List String → Prop
  | number {word : String} (h : '.' ∈ word.toList) : Uncounted now [word]
  | lateEpoch {word : String} {n : Nat} (h : Text.natural? word.toList = some n)
      (hn : 0x8000000000000000 ≤ n) : Uncounted now [word]
  | farAgo {count unit : String} {m k u : Nat} (hcount : Spelled count.toList m k)
      (hunit : UnitLasts unit u) (h : FarAgo now m k u) : Uncounted now [count, unit, "ago"]

variable {now start : Int}

theorem intercalate_ago (count unit : String) :
    " ".intercalate [count, unit, "ago"] = count ++ " " ++ unit ++ " ago" := by
  have hago : " ago" = " " ++ "ago" := rfl
  rw [hago, ← String.append_assoc]
  rfl

theorem phrasesFor_timestamp (now : Int) :
    ((grammar now).phrasesFor timestampType).map (fun p => (p.slots, p.resolver)) =
      [(agoSlots, some (resolveAgo now)),
        ([.keyword ["now"]], some fun _ => .integer now),
        ([.keyword ["today"]], some fun _ => .integer (today now)),
        ([.keyword ["yesterday"]], some fun _ => .integer (today now - day)),
        ([.parameter timestampType], none),
        ([.parameter numberType], none)] := rfl

theorem readsTime_resolveAgo {count unit : String} {m k u : Nat}
    (hcount : Spelled count.toList m k) (hunit : UnitLasts unit u)
    (hnow : Text.fitsInt64 now = true) :
    ReadsTime now [count, unit, "ago"] (resolveAgo now [count, unit, "ago"]) := by
  rw [resolveAgo]
  cases hago : ago? now [count, unit, "ago"] with
  | some time =>
    obtain ⟨span, hlasts, hspan, hback, rfl⟩ := (ago?_eq_some_iff hcount hunit hnow).1 hago
    exact .ago hcount hunit hlasts hspan hback
  | none =>
    dsimp only
    rw [intercalate_ago]
    exact .farAgo hcount hunit ((ago?_eq_none_iff hcount hunit hnow).1 hago)

theorem readsTime_readTimestamp {word : String} (hascii : ∀ c ∈ word.toList, c.toNat < 128)
    (h : timestampWord word = true) : ReadsTime now [word] (readTimestamp word) := by
  have hnatural := Text.natural?_of_allDigits hascii h
  rw [readTimestamp_of_natural? hnatural]
  split_ifs with hn
  · exact .epoch hnatural hn
  · exact .lateEpoch hnatural (Nat.not_lt.1 hn)

/-- The phrases are tried one after the other. Only the last is not for times alone, and it gets
no word that the one before it takes. -/
theorem readsTime_of_chosen? (hnow : Text.fitsInt64 now = true) {words : List String} {m : Phrase}
    (hm : (grammar now).chosen? timestampType words = some m) (hreads : m.Reads words)
    (hascii : ∀ w ∈ words, ∀ c ∈ w.toList, c.toNat < 128) :
    ReadsTime now words (m.resolve words) := by
  have hfirst : (((grammar now).phrasesFor timestampType).map fun p => (p.slots, p.resolver)).find?
      (fun q => Slot.fits q.1 words) = some (m.slots, m.resolver) := by
    rw [Grammar.chosen?] at hm
    rw [List.find?_map, Function.comp_def, hm]
    rfl
  rw [phrasesFor_timestamp] at hfirst
  simp only [List.find?_cons_eq_some, Prod.mk.injEq] at hfirst
  rcases hfirst with ⟨-, hslots, hresolver⟩ | ⟨-, hfirst⟩
  · obtain ⟨count, unit, rfl, hnumber, hunit⟩ := hreads.exists_of_ago hslots.symm
    obtain ⟨m, k, hcount⟩ :=
      Text.exists_spelled_of_isFixedPoint (hascii count List.mem_cons_self) hnumber
    obtain ⟨u, hlasts⟩ := exists_unitLasts hunit
    rw [Phrase.resolve_of_resolver hresolver.symm]
    exact readsTime_resolveAgo hcount hlasts hnow
  rcases hfirst with ⟨-, hslots, hresolver⟩ | ⟨-, hfirst⟩
  · rw [hreads.eq_of_keyword hslots.symm, Phrase.resolve_of_resolver hresolver.symm]
    exact .now
  rcases hfirst with ⟨-, hslots, hresolver⟩ | ⟨-, hfirst⟩
  · rw [hreads.eq_of_keyword hslots.symm, Phrase.resolve_of_resolver hresolver.symm]
    exact .today (dayStart_today now)
  rcases hfirst with ⟨-, hslots, hresolver⟩ | ⟨-, hfirst⟩
  · rw [hreads.eq_of_keyword hslots.symm, Phrase.resolve_of_resolver hresolver.symm]
    exact .yesterday (dayStart_today now)
  rcases hfirst with ⟨-, hslots, hresolver⟩ | ⟨hnot, hfirst⟩
  · obtain ⟨word, rfl, haccepts⟩ := hreads.exists_of_parameter hslots.symm
    rw [Phrase.resolve_of_parameter hslots.symm hresolver.symm]
    exact readsTime_readTimestamp (hascii word List.mem_cons_self) haccepts
  rcases hfirst with ⟨-, hslots, hresolver⟩ | ⟨-, hfirst⟩
  · obtain ⟨word, rfl, haccepts⟩ := hreads.exists_of_parameter hslots.symm
    have hdigits : timestampType.accepts word = false := by
      simpa [Slot.fits, Slot.accepts] using hnot
    obtain ⟨m, k, hword⟩ :=
      Text.exists_spelled_of_isFixedPoint (hascii word List.mem_cons_self) haccepts
    rw [Phrase.resolve_of_parameter hslots.symm hresolver.symm]
    exact .number (Text.point_mem_of_isFixedPoint haccepts hdigits) hword
      (readsNumber_of_spelled hword)
  · cases hfirst

theorem type_eq_of_name {f : Filter} (hf : f ∈ (grammar now).filters)
    (hname : f.type.name = "timestamp") : f.type = timestampType := by
  have hall : ∀ f ∈ (grammar now).filters, f.type.name = "timestamp" → f.type = timestampType :=
    List.forall_mem_cons.2 ⟨fun _ => rfl, List.forall_mem_cons.2 ⟨fun _ => rfl,
      List.forall_mem_cons.2 ⟨fun h => absurd h (by decide),
        List.forall_mem_singleton.2 fun h => absurd h (by decide)⟩⟩⟩
  exact hall f hf hname

theorem readsTime_of_compile (hnow : Text.fitsInt64 now = true) {g : Grammar}
    (hbuild : build now = .ok g) {literal : String} {p : Predicate}
    (h : g.compile literal = .ok p) (hname : p.filter.type.name = "timestamp")
    (hascii : ∀ w ∈ Text.words p.argument.literal, ∀ c ∈ w.toList, c.toNat < 128) :
    ReadsTime now (Text.words p.argument.literal) p.argument.value := by
  obtain rfl := Except.ok.inj ((build_eq_ok now).symm.trans hbuild)
  have hg := Grammar.WellFormed.of_build hbuild
  obtain ⟨_, _, -, hcompares⟩ := hg.words_of_compile_eq_ok h
  obtain ⟨m, hchosen, hlen, hvalue⟩ := hg.value_of_compile_eq_ok h
  have hchosen' := (hg.chosen?_eq_some_iff hcompares.filter_mem).2 hchosen
  rw [type_eq_of_name hcompares.filter_mem hname] at hchosen'
  have hreads : m.Reads (Text.words p.argument.literal) := by
    obtain ⟨-, -, -, -, hfits, -, -⟩ := hchosen
    rwa [Phrase.Fits, hlen, List.take_length] at hfits
  rw [hvalue]
  exact readsTime_of_chosen? hnow hchosen' hreads hascii

theorem uncounted_singleton_iff {word : String} :
    Uncounted now [word] ↔ '.' ∈ word.toList ∨
      ∃ n, Text.natural? word.toList = some n ∧ 0x8000000000000000 ≤ n := by
  constructor
  · rintro (hpoint | ⟨hn, hlarge⟩)
    · exact .inl hpoint
    · exact .inr ⟨_, hn, hlarge⟩
  · rintro (hpoint | ⟨n, hn, hlarge⟩)
    · exact .number hpoint
    · exact .lateEpoch hn hlarge

theorem not_uncounted_of_keyword {word : String} (hpoint : '.' ∉ word.toList)
    (hdigits : Text.natural? word.toList = none) : ¬ Uncounted now [word] := by
  rw [uncounted_singleton_iff, hdigits]
  simpa using hpoint

theorem not_uncounted_of_epoch {word : String} {n : Nat} (h : Text.natural? word.toList = some n)
    (hn : n < 0x8000000000000000) : ¬ Uncounted now [word] := by
  rw [uncounted_singleton_iff, h]
  rintro (hpoint | ⟨m, hm, hlarge⟩)
  · exact absurd (Text.isDigit_of_natural? h '.' hpoint) (by decide)
  · obtain rfl := Option.some.inj hm
    omega

/-- Words that stand for a time are read as an integer of 64 bits unless they are `Uncounted`. -/
theorem ReadsTime.exists_integer_iff (hnow : Text.fitsInt64 now = true)
    (hstart : DayStart now start) (hyesterday : -0x8000000000000000 ≤ start - 86400000)
    {words : List String} {value : Value} (h : ReadsTime now words value) :
    (∃ n, value = .integer n ∧ Text.fitsInt64 n = true) ↔ ¬ Uncounted now words := by
  have hbounds := Text.fitsInt64_iff.1 hnow
  have hle := hstart.le
  cases h with
  | now => exact iff_of_true ⟨_, rfl, hnow⟩ (not_uncounted_of_keyword (by decide) (by decide))
  | today h =>
    obtain rfl := hstart.unique h
    have hfits : Text.fitsInt64 start = true := Text.fitsInt64_iff.2 ⟨by omega, by omega⟩
    exact iff_of_true ⟨_, rfl, hfits⟩ (not_uncounted_of_keyword (by decide) (by decide))
  | yesterday h =>
    obtain rfl := hstart.unique h
    have hfits : Text.fitsInt64 (start - 86400000) = true :=
      Text.fitsInt64_iff.2 ⟨hyesterday, by omega⟩
    exact iff_of_true ⟨_, rfl, hfits⟩ (not_uncounted_of_keyword (by decide) (by decide))
  | @epoch word n h hn =>
    have hfits : Text.fitsInt64 (n : Int) = true := Text.fitsInt64_iff.2 ⟨by omega, by omega⟩
    exact iff_of_true ⟨_, rfl, hfits⟩ (not_uncounted_of_epoch h hn)
  | @ago count unit m k u span hcount hunit h hspan hback =>
    have hfits : Text.fitsInt64 (now - span) = true :=
      Text.fitsInt64_iff.2 ⟨hback, by omega⟩
    have hago : ago? now [count, unit, "ago"] = some (now - span) :=
      (ago?_eq_some_iff hcount hunit hnow).2 ⟨span, h, hspan, hback, rfl⟩
    refine iff_of_true ⟨_, rfl, hfits⟩ ?_
    rintro (_ | _ | ⟨hcount', hunit', hfar⟩)
    rw [(ago?_eq_none_iff hcount' hunit' hnow).2 hfar] at hago
    cases hago
  | lateEpoch h hn => exact iff_of_false (by simp) (not_not.2 (.lateEpoch h hn))
  | farAgo hcount hunit h => exact iff_of_false (by simp) (not_not.2 (.farAgo hcount hunit h))
  | number hpoint hword h =>
    refine iff_of_false ?_ (not_not.2 (.number hpoint))
    cases h <;> simp

/-- Of what compiles for a timestamp, the words settle the value, and it is an integer of 64 bits
unless the argument is a number with places, too large a count, or too long a span. Digits of other
scripts than ASCII are left open. -/
theorem timestamp_value (hnow : Text.fitsInt64 now = true) (hstart : DayStart now start)
    (hyesterday : -0x8000000000000000 ≤ start - 86400000) :
    ∃ g, build now = .ok g ∧ ∀ literal p, g.compile literal = .ok p →
      p.filter.type.name = "timestamp" →
      (∀ w ∈ Text.words p.argument.literal, ∀ c ∈ w.toList, c.toNat < 128) →
        ReadsTime now (Text.words p.argument.literal) p.argument.value ∧
          ((∃ n, p.argument.value = .integer n ∧ Text.fitsInt64 n = true) ↔
            ¬ Uncounted now (Text.words p.argument.literal)) := by
  refine ⟨grammar now, build_eq_ok now, fun literal p h hname hascii => ?_⟩
  have hreads := readsTime_of_compile hnow (build_eq_ok now) h hname hascii
  exact ⟨hreads, hreads.exists_integer_iff hnow hstart hyesterday⟩

theorem timestamp_value_span :
    ∃ g p q, build 1700000000000 = .ok g ∧ g.compile "updated before 1.5 weeks ago" = .ok p ∧
      p.argument.value = .integer 1699092800000 ∧
      ¬ Uncounted 1700000000000 (Text.words "1.5 weeks ago") ∧
      g.compile "created = yesterday" = .ok q ∧ q.argument.value = .integer 1699833600000 ∧
      ReadsTime 1700000000000 ["yesterday"] (.integer 1699833600000) := by
  have hstart : DayStart 1700000000000 1699920000000 := ⟨by decide, by decide, by decide⟩
  obtain ⟨g, hbuild, hvalue⟩ := timestamp_value (by decide) hstart (by decide)
  obtain rfl := Except.ok.inj ((build_eq_ok _).symm.trans hbuild)
  have hspan : (grammar 1700000000000).compile "updated before 1.5 weeks ago" =
      .ok ⟨⟨"last-updated", timestampType, ["updated"]⟩, ⟨"before", timestampType, []⟩,
        ⟨timestampType, "1.5 weeks ago", .integer 1699092800000⟩⟩ := rfl
  have hday : (grammar 1700000000000).compile "created = yesterday" =
      .ok ⟨⟨"created", timestampType, []⟩, ⟨"=", anyType, ["is"]⟩,
        ⟨timestampType, "yesterday", .integer 1699833600000⟩⟩ := rfl
  have hascii (text : String)
      (h : (Text.words text).all (fun w => w.toList.all (·.toNat < 128)) = true) :
      ∀ w ∈ Text.words text, ∀ c ∈ w.toList, c.toNat < 128 :=
    fun w hw => ascii_of_all (List.all_eq_true.1 h w hw)
  have hcounted :=
    (hvalue _ _ hspan rfl (hascii "1.5 weeks ago" (by decide))).2.1 ⟨_, rfl, by decide⟩
  have hreads := (hvalue _ _ hday rfl (hascii "yesterday" (by decide))).1
  exact ⟨_, _, _, hbuild, hspan, rfl, hcounted, hday, rfl, hreads⟩

/-- The phrase for numbers gives a timestamp a value of its own kind. -/
theorem compile_created_fraction :
    ∃ g p, build 1700000000000 = .ok g ∧ g.compile "created = 1.5" = .ok p ∧
      p.filter.type.name = "timestamp" ∧ ∀ n, p.argument.value ≠ .integer n :=
  ⟨_, _, build_eq_ok _, rfl, rfl, fun _ h => nomatch h⟩

end IssueGrammar

end SearchBox
