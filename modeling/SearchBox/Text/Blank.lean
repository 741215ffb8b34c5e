import SearchBox.Text.CharRange

namespace SearchBox.Text

/-- The code points with the Unicode property `White_Space`. -/
def blankRanges : List CharRange :=
  [⟨0x9, 0xD⟩, ⟨0x20, 0x20⟩, ⟨0x85, 0x85⟩, ⟨0xA0, 0xA0⟩, ⟨0x1680, 0x1680⟩, ⟨0x2000, 0x200A⟩,
   ⟨0x2028, 0x2029⟩, ⟨0x202F, 0x202F⟩, ⟨0x205F, 0x205F⟩, ⟨0x3000, 0x3000⟩]

def isBlank (c : Char) : Bool := inRanges blankRanges c

def dropBlanks (cs : List Char) : List Char := cs.dropWhile isBlank

def trim (cs : List Char) : List Char := (dropBlanks (dropBlanks cs).reverse).reverse

theorem isBlank_of_isWhitespace {c : Char} (h : c.isWhitespace = true) : isBlank c = true := by
  simp only [Char.isWhitespace, Bool.or_eq_true, decide_eq_true_eq] at h
  rcases h with ((h | h) | h) | h <;> subst h <;> decide

end SearchBox.Text
