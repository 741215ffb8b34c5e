namespace SearchBox

/-- Whether `word` starts with the text typed so far. -/
def startsWith (typed word : String) : Bool := typed.toList.isPrefixOf word.toList

theorem startsWith_iff {typed word : String} :
    startsWith typed word = true ↔ ∃ rest, typed.toList ++ rest = word.toList :=
  List.isPrefixOf_iff_prefix

theorem startsWith_self (word : String) : startsWith word word = true :=
  startsWith_iff.2 ⟨[], by simp⟩

theorem startsWith_trans {s t u : String} (hst : startsWith s t = true)
    (htu : startsWith t u = true) : startsWith s u = true :=
  List.isPrefixOf_iff_prefix.2
    ((List.isPrefixOf_iff_prefix.1 hst).trans (List.isPrefixOf_iff_prefix.1 htu))

/-- The first of an entry's spellings that an earlier entry has taken or that the entry repeats. -/
def firstTaken? (taken spellings : List String) : Option String :=
  spellings.find? fun s => taken.contains s || decide (1 < spellings.count s)

end SearchBox
