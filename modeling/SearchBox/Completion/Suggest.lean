import SearchBox.Completion.Basic
import SearchBox.Phrase.Attempt
import SearchBox.Token.Scan

namespace SearchBox.Grammar

variable (g : Grammar)

/-- Visits one entry after the other, each from where the one before it left the cursor. -/
def visitEach {α : Type} (visit : α → Cursor → List Completion × Cursor) :
    List α → Cursor → List Completion × Cursor
  | [], c => ([], c)
  | x :: xs, c =>
    let (found, reached) := visit x c
    let (others, last) := visitEach visit xs reached
    (found ++ others, last)

/-- Visits from a saved place, and returns to it. -/
def branch (visit : Cursor → List Completion × Cursor) (c : Cursor) : List Completion × Cursor :=
  let (found, reached) := visit c.save
  (found, reached.undo)

/-- The examples of one phrase for the words at the cursor; none once the phrase is ruled out. -/
def suggestPhrase (filter : Filter) (operator : Operator) (p : Phrase) (c : Cursor) :
    List Completion × Cursor :=
  if c.isDone then ((p.examples []).map (.ofExample filter operator 0), c)
  else
    match p.attempt c.save with
    | (.failure _ false, reached) => ([], reached.undo)
    | (attempt, reached) =>
      ((p.examples attempt.lexemes).map (.ofExample filter operator attempt.weight), reached.undo)

def suggestArguments (filter : Filter) (operator : Operator) (c : Cursor) :
    List Completion × Cursor :=
  visitEach (suggestPhrase filter operator) (g.phrasesFor filter.type) c

/-- A filter without operators stands for itself. -/
def suggestOperators (filter : Filter) : List Completion :=
  match g.operatorsFor filter.type with
  | [] => [.ofFilter filter]
  | operators => operators.map (.ofOperator filter)

/-- What can follow a finished filter. The word after it is an operator, or the beginning of one
while nothing follows. -/
def suggestAfterFilter (filter : Filter) (c : Cursor) : List Completion × Cursor :=
  match c.next with
  | (none, c) => ([], c)
  | (some t, c) =>
    if c.isDone then
      match (g.operatorsFor filter.type).filter (·.startsWith t.lexeme) with
      | [operator] =>
        if c.endsBlank then g.suggestArguments filter operator c
        else ([.ofOperator filter operator], c)
      | operators => (operators.map (.ofOperator filter), c)
    else
      visitEach (fun operator => branch (g.suggestArguments filter operator))
        ((g.operatorsFor filter.type).filter (·.isSpelled t.lexeme)) c

/-- The completions in the order in which the grammar declares their parts. -/
def suggestUnranked (c : Cursor) : List Completion × Cursor :=
  match c.next with
  | (none, c) => (g.filters.map .ofFilter, c)
  | (some t, c) =>
    if c.isDone then
      match g.filtersStartingWith t.lexeme with
      | [filter] => (if c.endsBlank then g.suggestOperators filter else [.ofFilter filter], c)
      | filters => (filters.map .ofFilter, c)
    else
      visitEach (fun filter => branch (g.suggestAfterFilter filter))
        (g.filters.filter (·.isSpelled t.lexeme)) c

/-- The completions of a literal that is being typed, the most typed first. -/
def suggest (literal : String) : List Completion :=
  Ranked.sort (fun c => c.weight) (g.suggestUnranked (.start g literal)).1

end SearchBox.Grammar
