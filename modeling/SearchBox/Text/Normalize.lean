import SearchBox.Text.LowerCase
import SearchBox.Text.Run

namespace SearchBox.Text

def Run.squeezed (r : Run) : List Char :=
  match r.kind with
  | .word => r.chars
  | .blank => [' ']

/-- Lower case, no blanks in front and one space for each run of blanks. -/
def normalize (s : String) : String :=
  let runs := (Run.split s).dropWhile (!·.isWord)
  String.ofList (lower (runs.flatMap Run.squeezed))

end SearchBox.Text
