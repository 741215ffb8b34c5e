import SearchBox.IssueGrammar
import SearchBox.Overview
import SearchBox.Projection
import SearchBox.Replay

namespace SearchBox

inductive Command where
  | check (literal : String) (layout : Json.Layout)
  | guess (typed : String) (asJson : Bool)
  | describe (layout : Json.Layout)
  | overview
  | replay (script : Option String)

/-- Arguments that name no command. -/
inductive UsageError where
  | missingCommand
  | unknownCommand (name : String)
  | unexpected (argument : String)
  | missing (name : String)
  deriving DecidableEq

def UsageError.message : UsageError → String
  | missingCommand => "error: a command is required: check, guess, grammar or replay"
  | unknownCommand name => "error: unrecognized subcommand '" ++ name ++ "'"
  | unexpected argument => "error: unexpected argument '" ++ argument ++ "' found"
  | missing name => "error: a value is required for '" ++ name ++ "'"

/-- Why a command that was understood did not succeed. -/
inductive CommandError where
  | grammar (error : ConfigError)
  | literal (error : LiteralError)
  | script (error : ScriptError)
  deriving DecidableEq

def CommandError.message : CommandError → String
  | grammar error => "invalid grammar: " ++ error.message
  | literal error => error.toString
  | script error => error.message

namespace Command

/-- What stands behind the name of a command: the flags among those it knows, and the values. -/
structure Operands where
  flags : List String := []
  values : List String := []

/-- Takes out every `--log-level` and its value; nothing here is logged. What follows `--` stays. -/
def dropLogLevel : List String → Except UsageError (List String)
  | [] => .ok []
  | "--" :: rest => .ok ("--" :: rest)
  | ["--log-level"] => .error (.missing "--log-level")
  | "--log-level" :: _ :: rest => dropLogLevel rest
  | arg :: rest =>
    if startsWith "--log-level=" arg then dropLogLevel rest
    else (dropLogLevel rest).map (arg :: ·)

/-- A word that begins with a hyphen is a flag, up to `--`; a lone hyphen is a value. -/
def operands (known : List String) : List String → Except UsageError Operands
  | [] => .ok {}
  | "--" :: rest => .ok { values := rest }
  | arg :: rest => do
    let o ← operands known rest
    if arg == "-" || !startsWith "-" arg then return { o with values := arg :: o.values }
    else if known.contains arg && !o.flags.contains arg then
      return { o with flags := arg :: o.flags }
    else throw (.unexpected arg)

def Operands.layout (o : Operands) : Json.Layout :=
  if o.flags.contains "-p" || o.flags.contains "--pretty" then .pretty else .compact

def atMostOne : List String → Except UsageError (Option String)
  | [] => .ok none
  | [value] => .ok (some value)
  | _ :: extra :: _ => .error (.unexpected extra)

def exactlyOne (name : String) (values : List String) : Except UsageError String := do
  match ← atMostOne values with
  | some value => return value
  | none => throw (.missing name)

def ofName (name : String) (args : List String) : Except UsageError Command :=
  match name with
  | "check" => do
    let o ← operands ["-p", "--pretty"] args
    return .check (← exactlyOne "LITERAL" o.values) o.layout
  | "guess" => do
    let o ← operands ["--json"] args
    return .guess (← exactlyOne "PARTIAL" o.values) (o.flags.contains "--json")
  | "grammar" => do
    let o ← operands ["-p", "--pretty", "--overview"] args
    match o.values with
    | value :: _ => throw (.unexpected value)
    | [] => return if o.flags.contains "--overview" then .overview else .describe o.layout
  | "replay" => do
    let o ← operands [] args
    return .replay (← atMostOne o.values)
  | name => .error (.unknownCommand name)

def ofArguments (args : List String) : Except UsageError Command := do
  match ← dropLogLevel args with
  | [] => throw .missingCommand
  | name :: rest => ofName name rest

def guessLine (asJson : Bool) (c : Completion) : String :=
  if asJson then c.toJson.render .compact else toString c.weight ++ "\t" ++ c.toString

def checkLiteral (g : Grammar) (literal : String) (layout : Json.Layout) :
    Except CommandError String :=
  match g.compile literal with
  | .ok predicate => .ok (predicate.toJson.render layout)
  | .error error => .error (.literal error)

def guessLines (g : Grammar) (typed : String) (asJson : Bool) : List String :=
  (g.suggest typed).map (guessLine asJson)

def describeGrammar (g : Grammar) (layout : Json.Layout) : String := g.toJson.render layout

def replayScript (g : Grammar) (script : String) : Except CommandError Replay :=
  (Replay.run g script).mapError .script

/-- What the command prints. A replay without a script reads one from `input`. -/
def output (g : Grammar) (input : String) : Command → Except CommandError String
  | .check literal layout => (checkLiteral g literal layout).map (· ++ "\n")
  | .guess typed asJson => .ok (String.join ((guessLines g typed asJson).map (· ++ "\n")))
  | .describe layout => .ok (describeGrammar g layout ++ "\n")
  | .overview => .ok (Overview.render g)
  | .replay script => (replayScript g (script.getD input)).map Replay.toString

/-- Whether the command reads its standard input. -/
def readsInput : Command → Bool
  | .replay none => true
  | _ => false

end Command

/-- What is left of a run of the program. -/
structure Outcome where
  code : UInt32
  stdout : String
  stderr : String

namespace CommandLine

/-- Runs against the built-in grammar at the time `now`. -/
def runCommand (now : Int) (input : String) (command : Command) : Outcome :=
  let printed := do
    let g ← (IssueGrammar.build now).mapError CommandError.grammar
    command.output g input
  match printed with
  | .ok text => ⟨0, text, ""⟩
  | .error error => ⟨1, "", error.message ++ "\n"⟩

def usage (error : UsageError) : Outcome := ⟨2, "", error.message ++ "\n"⟩

def run (now : Int) (input : String) (args : List String) : Outcome :=
  match Command.ofArguments args with
  | .ok command => runCommand now input command
  | .error error => usage error

end CommandLine

end SearchBox
