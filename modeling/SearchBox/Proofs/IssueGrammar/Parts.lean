import SearchBox.IssueGrammar
import SearchBox.Proofs.Grammar.WellFormed
import SearchBox.Proofs.Phrase.Templates

namespace SearchBox.IssueGrammar

def anyType : DataType := .sub "any" 0 (fun word => !word.isEmpty) .text .root

def numberType : DataType := .sub "number" 1 numberWord readNumber anyType

def userType : DataType :=
  .sub "user" 2 userWord (fun word => .text (Text.lowerCase word)) anyType

def timestampType : DataType := .sub "timestamp" 2 timestampWord readTimestamp numberType

def registry : TypeRegistry := ⟨[userType, timestampType, numberType, anyType, .root]⟩

def units : List String :=
  ["sec", "secs", "second", "seconds", "min", "mins", "minute", "minutes", "hr", "hrs", "hour",
    "hours", "day", "days", "wk", "wks", "week", "weeks"]

def agoSlots : List Slot := [.parameter numberType, .keyword units, .keyword ["ago"]]

/-- The slots of the phrases, in the order of their declaration. -/
def templates : List (DataType × List Slot) :=
  [(timestampType, agoSlots),
    (timestampType, [.keyword ["now"]]),
    (timestampType, [.keyword ["today"]]),
    (timestampType, [.keyword ["yesterday"]]),
    (userType, [.keyword ["me"]]),
    (timestampType, [.parameter timestampType]),
    (userType, [.parameter userType]),
    (numberType, [.parameter numberType])]

def phraseOf (d : PhraseDecl) (template : DataType × List Slot) : Phrase :=
  ⟨d.template, template.1, d.precedence, template.2, d.resolver, d.exampler⟩

/-- What the configuration builds. The phrases are declared in order of precedence. -/
def grammar (now : Int) : Grammar where
  types := registry
  filters := [⟨"created", timestampType, []⟩, ⟨"last-updated", timestampType, ["updated"]⟩,
    ⟨"author", userType, ["by"]⟩, ⟨"score", numberType, []⟩]
  operators := [⟨"=", anyType, ["is"]⟩, ⟨"!=", anyType, ["is-not"]⟩, ⟨"before", timestampType, []⟩,
    ⟨"after", timestampType, []⟩, ⟨"around", timestampType, []⟩, ⟨">", numberType, ["above"]⟩,
    ⟨"<", numberType, ["below"]⟩]
  phrases := List.zipWith phraseOf (phrases now) templates

theorem words_agoTemplate :
    Text.words ("<number> [sec|secs|second|seconds|min|mins|minute|minutes|hr|hrs|hour|hours|" ++
      "day|days|wk|wks|week|weeks] ago") =
      ["<number>", "[" ++ "|".intercalate units ++ "]", "ago"] := by
  decide +kernel

theorem readAll_agoTemplate :
    Slot.readAll registry
      ("<number> [sec|secs|second|seconds|min|mins|minute|minutes|hr|hrs|hour|hours|" ++
        "day|days|wk|wks|week|weeks] ago") =
      .ok agoSlots := by
  have hunits (template : String) :
      Slot.read registry template ("[" ++ "|".intercalate units ++ "]") = .ok (.keyword units) :=
    Slot.read_of_writes (.choice (by decide) (by decide))
  rw [Slot.readAll, words_agoTemplate]
  simp only [List.mapM_cons, List.mapM_nil, hunits]
  rfl

theorem compile_phrases (now : Int) :
    List.Forall₂ (fun d p => Phrase.compile registry d = .ok p) (phrases now)
      (grammar now).phrases := by
  refine .cons (Grammar.compilePhrase_of_slots rfl readAll_agoTemplate) ?_
  -- The other templates are a word each.
  repeat refine .cons (Grammar.compilePhrase_of_slots rfl (by dsimp only; rfl)) ?_
  exact .nil

theorem foldlM_addType :
    types.foldlM Grammar.addType .empty = .ok ⟨registry, [], [], []⟩ := by
  rfl

theorem foldlM_addFilter (now : Int) :
    filters.foldlM Grammar.addFilter ⟨registry, [], [], []⟩ =
      .ok ⟨registry, (grammar now).filters, [], []⟩ := by
  rfl

theorem foldlM_addOperator (now : Int) :
    operators.foldlM Grammar.addOperator ⟨registry, (grammar now).filters, [], []⟩ =
      .ok ⟨registry, (grammar now).filters, (grammar now).operators, []⟩ := by
  rfl

theorem build_eq_ok (now : Int) : build now = .ok (grammar now) := by
  have hphrases := Grammar.foldlM_addPhrase_of_compile
    (g := ⟨registry, (grammar now).filters, (grammar now).operators, []⟩) (compile_phrases now)
  exact Grammar.build_of_stages foldlM_addType (foldlM_addFilter now) (foldlM_addOperator now)
    hphrases

end SearchBox.IssueGrammar
