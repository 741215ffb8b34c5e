import SearchBox.Completion.Basic
import SearchBox.Text.Normalize

namespace SearchBox

/-- What is left of `c` to type after `literal`; nothing if `literal` goes another way. -/
def Completion.ghost (c : Completion) (literal : String) : String :=
  let typed := (Text.normalize literal).toList
  let whole := (Text.normalize c.plain).toList
  if typed.isPrefixOf whole then String.ofList (whole.drop typed.length) else ""

end SearchBox
