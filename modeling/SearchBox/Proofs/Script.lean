import SearchBox.Proofs.Text.Numeral
import SearchBox.Proofs.Text.Trim
import SearchBox.Script

namespace SearchBox.Script

open Text (isBlank trim index?)

/-! Scripts are read as they are written, and a line that means nothing is found by its number. -/

section Lines

variable {line rest : List Char}

/-- What is left of a line that ends before a line feed. -/
def withoutReturn (line : List Char) : List Char :=
  if line.getLast? = some '\r' then line.dropLast else line

theorem withoutReturn_cons (c : Char) (hne : line ≠ []) :
    withoutReturn (c :: line) = c :: withoutReturn line := by
  obtain ⟨d, ds, rfl⟩ := List.exists_cons_of_ne_nil hne
  unfold withoutReturn
  rw [List.getLast?_cons_cons]
  split
  · rfl
  · rfl

theorem trim_withoutReturn (line : List Char) : trim (withoutReturn line) = trim line := by
  unfold withoutReturn
  split
  · rename_i hreturn
    obtain ⟨front, rfl⟩ := List.getLast?_eq_some_iff.1 hreturn
    rw [List.dropLast_concat, Text.trim_append_singleton (by decide)]
  · rfl

theorem lines_cons {c : Char} {cs : List Char} (hc : c ≠ '\n')
    (hreturn : c = '\r' → cs.head? ≠ some '\n') :
    lines (c :: cs) = match lines cs with
      | [] => [[c]]
      | line :: rest => (c :: line) :: rest := by
  refine lines.eq_4 c cs hc ?_
  rintro ds rfl rfl
  exact hreturn rfl rfl

theorem lines_append_cons (h : '\n' ∉ line) (rest : List Char) :
    lines (line ++ '\n' :: rest) = withoutReturn line :: lines rest := by
  induction line with
  | nil => rfl
  | cons c cs ih =>
    obtain ⟨hc, hcs⟩ : c ≠ '\n' ∧ '\n' ∉ cs := by
      simpa [eq_comm] using h
    -- A carriage return counts only right before the line feed, so the last character is apart.
    cases cs with
    | nil =>
      by_cases hreturn : c = '\r'
      · subst hreturn
        rfl
      · rw [List.cons_append, List.nil_append, lines_cons hc (absurd · hreturn), lines]
        simp [withoutReturn, hreturn]
    | cons d ds =>
      have hd : (d :: ds ++ '\n' :: rest).head? ≠ some '\n' := by
        simp only [List.cons_append, List.head?_cons]
        rintro ⟨⟩
        exact hcs List.mem_cons_self
      rw [List.cons_append, lines_cons hc fun _ => hd, ih hcs,
        withoutReturn_cons c (List.cons_ne_nil d ds)]

theorem lines_of_not_mem (h : '\n' ∉ line) (hne : line ≠ []) : lines line = [line] := by
  induction line with
  | nil => exact absurd rfl hne
  | cons c cs ih =>
    obtain ⟨hc, hcs⟩ : c ≠ '\n' ∧ '\n' ∉ cs := by
      simpa [eq_comm] using h
    have hhead : cs.head? ≠ some '\n' := fun hhead => hcs (List.mem_of_head? hhead)
    rw [lines_cons hc fun _ => hhead]
    cases cs with
    | nil => rfl
    | cons d ds => rw [ih hcs (List.cons_ne_nil d ds)]

end Lines

variable {line : List Char}

/-- Blank, or a comment. -/
def Idle (line : List Char) : Prop := trim line = [] ∨ (trim line).head? = some '#'

/-- Neither text to set, nor idle, nor `pick` with an index of 64 bits, nor the name of a key. -/
structure Malformed (line : List Char) : Prop where
  not_change : line.head? ≠ some '>'
  not_idle : ¬ Idle line
  not_pick : ∀ rest index, trim line = pickWord ++ rest → index? (trim rest) ≠ some index
  not_key : ∀ entry ∈ Key.named, entry.1 ≠ Text.lowerCase (String.ofList (trim line))

theorem Idle.head?_ne (h : Idle line) : line.head? ≠ some '>' := by
  intro hhead
  obtain ⟨text, rfl⟩ := List.head?_eq_some_iff.1 hhead
  have htrim : (trim ('>' :: text)).head? = some '>' := by
    rw [Text.head?_trim, Text.dropBlanks_of_head rfl, List.head?_cons]
  rcases h with hnil | hcomment
  · rw [hnil] at htrim
    cases htrim
  · rw [hcomment] at htrim
    cases htrim

theorem readLine_of_change (text : List Char) :
    ∃ s, readLine ('>' :: text) = .ok (some (.change s)) := by
  unfold readLine
  split
  · exact ⟨_, rfl⟩
  · exact ⟨_, rfl⟩
  · rename_i hchange
    exact absurd rfl (hchange text)

theorem readLine_of_idle (h : Idle line) : readLine line = .ok none := by
  have hhead := h.head?_ne
  unfold readLine
  split
  · exact absurd rfl hhead
  · exact absurd rfl hhead
  · rcases h with hnil | hcomment
    · rw [hnil]
      rfl
    · simp [hcomment]

theorem readLine_of_pick {rest : List Char} (hhead : line.head? ≠ some '>')
    (h : trim line = pickWord ++ rest) :
    readLine line = match index? (trim rest) with
      | some index => .ok (some (.pick index))
      | none => .error (.missingIndex (String.ofList (trim line))) := by
  unfold readLine
  split
  · exact absurd rfl hhead
  · exact absurd rfl hhead
  · have hnil : (pickWord ++ rest).isEmpty = false := rfl
    have hcomment : (pickWord ++ rest).head? ≠ some '#' := by simp [pickWord]
    cases hindex : index? (trim rest) <;>
      simp only [h, hnil, hcomment, decide_false, Bool.or_self, Bool.false_eq_true, if_false,
        List.isPrefixOf_iff_prefix, List.prefix_append, if_true, List.drop_left, hindex]

theorem readLine_of_name (hhead : line.head? ≠ some '>') (hidle : ¬ Idle line)
    (hpick : ¬ pickWord <+: trim line) :
    readLine line = match Key.ofName (String.ofList (trim line)) with
      | .ok key => .ok (some (.key key))
      | .error error => .error (.unknownKey error) := by
  obtain ⟨hnil, hcomment⟩ := not_or.1 hidle
  unfold readLine
  split
  · exact absurd rfl hhead
  · exact absurd rfl hhead
  · cases hname : Key.ofName (String.ofList (trim line)) <;>
      simp only [List.isEmpty_eq_false_iff.2 hnil, hcomment, decide_false, Bool.or_self,
        Bool.false_eq_true, if_false, List.isPrefixOf_iff_prefix, hpick, hname]

/-- No key is named like an index: the lower case of `pick` is `pick`. -/
theorem ne_lowerCase_pick (rest : List Char) :
    ∀ entry ∈ Key.named, entry.1 ≠ Text.lowerCase (String.ofList (pickWord ++ rest)) := by
  have hnames : ∀ entry ∈ Key.named, ¬ pickWord <+: entry.1.toList := by decide
  have hfixed : pickWord.all (fun c => Text.lowerChar c == [c]) = true := by decide +kernel
  intro entry hentry hname
  have hlower : (Text.lowerCase (String.ofList (pickWord ++ rest))).toList =
      pickWord ++ Text.lowerAfter pickWord.reverse rest := by
    rw [Text.lowerCase, String.toList_ofList, String.toList_ofList, Text.lower,
      Text.lowerAfter_fixed_append fun c hc => eq_of_beq (List.all_eq_true.1 hfixed c hc),
      List.append_nil]
  refine hnames entry hentry ?_
  rw [hname, hlower]
  exact List.prefix_append pickWord _

theorem ofName_eq_error_iff {name : String} :
    (∃ e, Key.ofName name = .error e) ↔ ∀ entry ∈ Key.named, entry.1 ≠ Text.lowerCase name := by
  have hlookup : Key.named.lookup (Text.lowerCase name) = none ↔
      ∀ entry ∈ Key.named, entry.1 ≠ Text.lowerCase name := by
    rw [List.lookup_eq_none_iff]
    exact forall₂_congr fun entry _ => by rw [bne_iff_ne, ne_comm]
  rw [← hlookup]
  unfold Key.ofName
  simp only
  split
  · rename_i key hkey
    simp [hkey]
  · rename_i hnone
    simp [hnone]

theorem exists_readLine_eq_error_iff :
    (∃ fault, readLine line = .error fault) ↔ Malformed line := by
  by_cases hhead : line.head? = some '>'
  · obtain ⟨text, rfl⟩ := List.head?_eq_some_iff.1 hhead
    obtain ⟨s, hs⟩ := readLine_of_change text
    exact iff_of_false (by simp [hs]) fun h => h.not_change rfl
  by_cases hidle : Idle line
  · exact iff_of_false (by simp [readLine_of_idle hidle]) fun h => h.not_idle hidle
  by_cases hpick : pickWord <+: trim line
  · obtain ⟨rest, hrest⟩ := hpick
    rw [readLine_of_pick hhead hrest.symm]
    cases hindex : index? (trim rest) with
    | some index => exact iff_of_false (by simp) fun h => h.not_pick rest index hrest.symm hindex
    | none =>
      refine iff_of_true ⟨_, rfl⟩ ⟨hhead, hidle, ?_, ?_⟩
      · intro rest' index hrest'
        obtain rfl := List.append_cancel_left (hrest.trans hrest')
        simp [hindex]
      · rw [← hrest]
        exact ne_lowerCase_pick rest
  · have hkey := @ofName_eq_error_iff (String.ofList (trim line))
    rw [readLine_of_name hhead hidle hpick]
    constructor
    · intro hfault
      refine ⟨hhead, hidle, fun rest _ hrest => absurd ⟨rest, hrest.symm⟩ hpick, hkey.1 ?_⟩
      cases hname : Key.ofName (String.ofList (trim line)) with
      | ok key => simp [hname] at hfault
      | error e => exact ⟨e, rfl⟩
    · intro h
      obtain ⟨e, he⟩ := hkey.2 h.not_key
      exact ⟨.unknownKey e, by rw [he]⟩

/-- Line number `n`, counted from 1, is the first malformed one. -/
def FirstMalformed (lines : List (List Char)) (n : Nat) : Prop :=
  ∃ before line after, lines = before ++ line :: after ∧ (∀ l ∈ before, ¬ Malformed l) ∧
    Malformed line ∧ n = before.length + 1

theorem firstMalformed_cons_iff {lines : List (List Char)} {n : Nat} :
    FirstMalformed (line :: lines) n ↔
      Malformed line ∧ n = 1 ∨ ¬ Malformed line ∧ ∃ m, n = m + 1 ∧ FirstMalformed lines m := by
  constructor
  · rintro ⟨before, bad, after, hlines, hbefore, hbad, hn⟩
    cases before with
    | nil =>
      obtain ⟨rfl, -⟩ := List.cons.inj hlines
      exact .inl ⟨hbad, hn⟩
    | cons l before =>
      obtain ⟨rfl, rfl⟩ := List.cons.inj hlines
      obtain ⟨hl, hbefore⟩ := List.forall_mem_cons.1 hbefore
      exact .inr ⟨hl, _, hn, before, bad, after, rfl, hbefore, hbad, rfl⟩
  · rintro (⟨hbad, rfl⟩ | ⟨hline, m, rfl, before, bad, after, rfl, hbefore, hbad, rfl⟩)
    · exact ⟨[], line, lines, rfl, by simp, hbad, rfl⟩
    · exact ⟨line :: before, bad, after, rfl, List.forall_mem_cons.2 ⟨hline, hbefore⟩, hbad, rfl⟩

theorem readFrom_cons_of_ok {event : Option EditorEvent} (h : readLine line = .ok event) (n : Nat)
    (rest : List (List Char)) :
    readFrom n (line :: rest) = (readFrom (n + 1) rest).map (event.toList ++ ·) := by
  rw [readFrom, h]

theorem exists_readFrom_eq_error_iff {lines : List (List Char)} {n m : Nat} :
    (∃ fault, readFrom n lines = .error ⟨m, fault⟩) ↔
      ∃ k, m + 1 = n + k ∧ FirstMalformed lines k := by
  induction lines generalizing n with
  | nil => simp [readFrom, FirstMalformed]
  | cons line rest ih =>
    simp only [firstMalformed_cons_iff, ← exists_readLine_eq_error_iff]
    cases hline : readLine line with
    | error fault =>
      rw [readFrom, hline]
      constructor
      · rintro ⟨_, ⟨⟩⟩
        exact ⟨1, rfl, .inl ⟨⟨fault, rfl⟩, rfl⟩⟩
      · rintro ⟨_, hm, ⟨-, rfl⟩ | ⟨hok, -⟩⟩
        · obtain rfl := Nat.succ.inj hm
          exact ⟨fault, rfl⟩
        · exact absurd ⟨fault, rfl⟩ hok
    | ok event =>
      have hmap : (∃ fault, readFrom n (line :: rest) = .error ⟨m, fault⟩) ↔
          ∃ fault, readFrom (n + 1) rest = .error ⟨m, fault⟩ := by
        rw [readFrom_cons_of_ok hline]
        cases readFrom (n + 1) rest <;> simp [Except.map]
      rw [hmap, ih]
      constructor
      · rintro ⟨k, hk, hfirst⟩
        exact ⟨k + 1, by omega, .inr ⟨by simp, k, rfl, hfirst⟩⟩
      · rintro ⟨_, hk, ⟨⟨_, ⟨⟩⟩, -⟩ | ⟨-, k, rfl, hfirst⟩⟩
        exact ⟨k, by omega, hfirst⟩

section Written

/-- How an event is written. -/
def write : EditorEvent → List Char
  | .change text => '>' :: ' ' :: text.toList
  | .pick index => pickWord ++ ' ' :: (toString index).toList
  | .key key => key.name.toList

/-- What a line can hold: a text that has no line feed in it and does not end in a carriage
return, an index of 64 bits, any key. -/
def FitsLine : EditorEvent → Prop
  | .change text => '\n' ∉ text.toList ∧ text.toList.getLast? ≠ some '\r'
  | .pick index => index < 0x10000000000000000
  | .key _ => True

/-- An event in its written form, or a blank line or comment, which stands for none. -/
inductive Line : List Char → Option EditorEvent → Prop
  | event {event : EditorEvent} (h : FitsLine event) : Line (write event) (some event)
  | idle {line : List Char} (hline : '\n' ∉ line) (h : Idle line) : Line line none

/-- One line after the other, with or without a line feed behind the last. -/
inductive Spells : List Char → List EditorEvent → Prop
  | nil : Spells [] []
  | last {line : List Char} {event : Option EditorEvent} (h : Line line event) :
      Spells line event.toList
  | cons {line rest : List Char} {event : Option EditorEvent} {events : List EditorEvent}
      (h : Line line event) (hrest : Spells rest events) :
      Spells (line ++ '\n' :: rest) (event.toList ++ events)

/-- What is shown of a line for its event: it is one line, and it is read as the event with or
without the line feed behind it. -/
structure LineReads (line : List Char) (event : Option EditorEvent) : Prop where
  not_mem : '\n' ∉ line
  readLine_eq : readLine line = .ok event
  readLine_withoutReturn : readLine (withoutReturn line) = .ok event

theorem lineReads_of_getLast? {event : Option EditorEvent} (hline : '\n' ∉ line)
    (hlast : line.getLast? ≠ some '\r') (h : readLine line = .ok event) : LineReads line event :=
  ⟨hline, h, by rwa [withoutReturn, if_neg hlast]⟩

theorem lineReads_change {text : String} (h : FitsLine (.change text)) :
    LineReads (write (.change text)) (some (.change text)) := by
  obtain ⟨hline, hlast⟩ := h
  refine lineReads_of_getLast? (by simp [write, hline]) ?_ ?_
  · rw [write, List.getLast?_cons_cons, List.getLast?_cons]
    cases hend : text.toList.getLast? with
    | none => decide
    | some c => simpa [hend] using hlast
  · simp [readLine, write]

theorem lineReads_pick {index : Nat} (h : FitsLine (.pick index)) :
    LineReads (write (.pick index)) (some (.pick index)) := by
  have hdigits := Text.isDigit_of_mem_toString index
  have hletters : ∀ c ∈ (toString index).toList, isBlank c = false :=
    fun c hc => Text.isBlank_of_isDigit (hdigits c hc)
  obtain ⟨c, hlast⟩ : ∃ c, (toString index).toList.getLast? = some c :=
    Option.isSome_iff_exists.1 (by simp)
  have hc : c ∈ (toString index).toList := List.mem_of_getLast? hlast
  have hend : (write (.pick index)).getLast? = some c := by
    rw [write, List.getLast?_append_cons, List.getLast?_cons, hlast]
    rfl
  have htrim : trim (write (.pick index)) = pickWord ++ ' ' :: (toString index).toList :=
    Text.trim_of_ends rfl (by rw [hend]; exact hletters c hc)
  have hindex : index? (trim (' ' :: (toString index).toList)) = some index := by
    rw [Text.trim_cons (by decide), Text.trim_of_letters hletters,
      Text.index?_of_natural? (Text.natural?_toString index) h]
  refine lineReads_of_getLast? ?_ ?_ ?_
  · have hdigit : '\n' ∉ (toString index).toList :=
      fun hmem => absurd (hdigits '\n' hmem) (by decide)
    simpa [write, pickWord] using hdigit
  · rw [hend]
    rintro ⟨⟩
    exact absurd (hdigits '\r' hc) (by decide)
  · rw [readLine_of_pick (by simp [write, pickWord]) htrim, hindex]

theorem lineReads_key (key : Key) : LineReads (write (.key key)) (some (.key key)) := by
  cases key <;> exact lineReads_of_getLast? (by decide) (by decide) rfl

theorem lineReads_idle (hline : '\n' ∉ line) (h : Idle line) : LineReads line none := by
  refine ⟨hline, readLine_of_idle h, readLine_of_idle ?_⟩
  rwa [Idle, trim_withoutReturn]

theorem Line.reads {event : Option EditorEvent} (h : Line line event) : LineReads line event := by
  cases h with
  | idle hline h => exact lineReads_idle hline h
  | @event event h =>
    cases event with
    | change text => exact lineReads_change h
    | pick index => exact lineReads_pick h
    | key key => exact lineReads_key key

theorem Spells.readFrom_lines {text : List Char} {events : List EditorEvent}
    (h : Spells text events) (n : Nat) : readFrom n (lines text) = .ok events := by
  induction h generalizing n with
  | nil => rfl
  | @last line event h =>
    have hreads := h.reads
    -- Behind the last line feed an empty line is no line at all.
    by_cases hnil : line = []
    · subst hnil
      obtain rfl : event = none := (Except.ok.inj hreads.readLine_eq).symm
      rfl
    · rw [lines_of_not_mem hreads.not_mem hnil, readFrom_cons_of_ok hreads.readLine_eq]
      simp [readFrom, Except.map]
  | @cons line rest event events h _ ih =>
    have hreads := h.reads
    rw [lines_append_cons hreads.not_mem, readFrom_cons_of_ok hreads.readLine_withoutReturn, ih]
    rfl

theorem spells_write {events : List EditorEvent} (h : ∀ event ∈ events, FitsLine event) :
    Spells (events.flatMap fun event => write event ++ ['\n']) events := by
  induction events with
  | nil => exact .nil
  | cons event events ih =>
    obtain ⟨hevent, hevents⟩ := List.forall_mem_cons.1 h
    rw [List.flatMap_cons, List.append_assoc]
    exact .cons (.event hevent) (ih hevents)

end Written

/-- Events written line by line, with blank lines and comments anywhere between them, are read back
as they are. A script is refused for its first malformed line, by the number of that line. -/
theorem read_decodes :
    (∀ events, (∀ event ∈ events, FitsLine event) →
      Spells (events.flatMap fun event => write event ++ ['\n']) events) ∧
    (∀ script events, Spells script.toList events → read script = .ok events) ∧
    ∀ script n, (∃ fault, read script = .error ⟨n, fault⟩) ↔
      FirstMalformed (lines script.toList) n := by
  refine ⟨fun events => spells_write, fun script events h => h.readFrom_lines 1, ?_⟩
  intro script n
  rw [read, exists_readFrom_eq_error_iff]
  constructor
  · rintro ⟨k, hk, h⟩
    obtain rfl : n = k := by omega
    exact h
  · intro h
    exact ⟨n, Nat.add_comm n 1, h⟩

theorem read_decodes_commented :
    read "# > tab\n>  # \n \t\npick 18446744073709551615\nesc" =
      .ok [.change " # ", .pick 18446744073709551615, .key .esc] ∧
    ∃ fault, read "# >\n\n > x\npick" = .error ⟨3, fault⟩ := by
  obtain ⟨-, hread, hrefuse⟩ := read_decodes
  have htext : FitsLine (.change " # ") := ⟨by decide, by decide⟩
  have hindex : FitsLine (.pick 18446744073709551615) := by
    rw [FitsLine]
    decide
  have hkey : FitsLine (.key .esc) := trivial
  have hcomment : Line "# > tab".toList none := .idle (by decide) (.inr (by decide))
  have hblank : Line " \t".toList none := .idle (by decide) (.inl (by decide))
  have hspells : Spells "# > tab\n>  # \n \t\npick 18446744073709551615\nesc".toList
      [.change " # ", .pick 18446744073709551615, .key .esc] :=
    .cons hcomment (.cons (.event htext) (.cons hblank (.cons (.event hindex)
      (.last (.event hkey)))))
  have hmalformed : FirstMalformed (lines "# >\n\n > x\npick".toList) 3 :=
    ⟨["# >".toList, []], " > x".toList, ["pick".toList], by decide,
      List.forall_mem_cons.2 ⟨fun h => h.not_idle (.inr (by decide)),
        List.forall_mem_singleton.2 fun h => h.not_idle (.inl rfl)⟩,
      exists_readLine_eq_error_iff.1 ⟨.unknownKey ⟨"> x"⟩, rfl⟩, rfl⟩
  exact ⟨hread _ _ hspells, (hrefuse _ _).2 hmalformed⟩

end SearchBox.Script
