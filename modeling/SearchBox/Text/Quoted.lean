import SearchBox.Text.Quoted.Table

namespace SearchBox.Text

/-- Characters that a reader cannot see on their own are written by number. -/
def isPlain (c : Char) : Bool :=
  !inRanges unprintableRanges c && !inRanges graphemeExtendRanges c &&
    !inRanges ignorableLetterRanges c

def quoteChar (c : Char) : String :=
  if c = '\x00' then "\\0"
  else if c = '\t' then "\\t"
  else if c = '\r' then "\\r"
  else if c = '\n' then "\\n"
  else if c = '"' then "\\\""
  else if c = '\\' then "\\\\"
  else if isPlain c then c.toString
  else "\\u\x7b" ++ String.ofList (Nat.toDigits 16 c.toNat) ++ "\x7d"

def quote (s : String) : String :=
  "\"" ++ String.join (s.toList.map quoteChar) ++ "\""

end SearchBox.Text
