import SearchBox.Text.LowerCase.Table

namespace SearchBox.Text

def CaseRange.has (r : CaseRange) (c : Char) : Bool :=
  decide (r.first ≤ c.toNat) && decide (c.toNat ≤ r.last) && (c.toNat - r.first) % r.stride == 0

/-- One letter at a time; `İ` alone becomes two, and `Σ` is the medial `σ` here. -/
def lowerChar (c : Char) : List Char :=
  if c = 'İ' then ['i', '\u0307']
  else
    match caseRanges.find? (·.has c) with
    | some r => [Char.ofNat (c.toNat + r.shift).toNat]
    | none => [c]

/-- Whether the nearest character that casing does not skip is a cased letter. -/
def meetsCased (cs : List Char) : Bool :=
  match cs.dropWhile (inRanges caseIgnorableRanges) with
  | [] => false
  | c :: _ => inRanges casedRanges c

/-- A capital sigma that ends a word becomes `ς`: a letter stands before it and none after it.
`before` is the text already passed, nearest character first. -/
def lowerAfter (before : List Char) : List Char → List Char
  | [] => []
  | c :: cs =>
    (if c = 'Σ' && meetsCased before && !meetsCased cs then ['ς'] else lowerChar c) ++
      lowerAfter (c :: before) cs

def lower (cs : List Char) : List Char := lowerAfter [] cs

def lowerCase (s : String) : String := String.ofList (lower s.toList)

end SearchBox.Text
