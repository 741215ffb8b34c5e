import SearchBox.Decimal.Numeral
import SearchBox.Grammar.Config
import SearchBox.Text.Digit
import SearchBox.Text.LowerCase

namespace SearchBox.IssueGrammar

/-! The built-in grammar for filtering issues. Times are milliseconds since the Unix epoch, and
`now` is the time that relative ones are counted from. -/

def second : Nat := 1000
def minute : Nat := 60 * second
def hour : Nat := 60 * minute
def day : Nat := 24 * hour
def week : Nat := 7 * day

def unitMillis? (word : String) : Option Nat :=
  if ["sec", "secs", "second", "seconds"].contains word then some second
  else if ["min", "mins", "minute", "minutes"].contains word then some minute
  else if ["hr", "hrs", "hour", "hours"].contains word then some hour
  else if ["day", "days"].contains word then some day
  else if ["wk", "wks", "week", "weeks"].contains word then some week
  else none

def numberWord (word : String) : Bool := Text.isFixedPoint word.toList

def readNumber (word : String) : Value :=
  match Decimal.read? word with
  | some d => .decimal d
  | none => .text word

def timestampWord (word : String) : Bool := Text.allDigits word.toList

def readTimestamp (word : String) : Value :=
  match Text.integer? word.toList with
  | some n => .integer n
  | none => .text word

/-- A user's name in any case; the long `ſ` is a small `s`. -/
def userWord (word : String) : Bool :=
  match word.toList with
  | [u, s, e, r, n] =>
    ['u', 'U'].contains u && ['s', 'S', 'ſ'].contains s && ['e', 'E'].contains e &&
      ['r', 'R'].contains r && ['1', '2'].contains n
  | _ => false

def types : List TypeDecl :=
  [{ name := "any", precedence := 0 },
    { name := "number", precedence := 1, supertype := some "any"
      accepts := numberWord, read := readNumber },
    { name := "user", precedence := 2, supertype := some "any"
      accepts := userWord, read := fun word => .text (Text.lowerCase word) },
    { name := "timestamp", precedence := 2, supertype := some "number"
      accepts := timestampWord, read := readTimestamp }]

def filters : List FilterDecl :=
  [{ name := "created", type := "timestamp" },
    { name := "last-updated", type := "timestamp", aliases := ["updated"] },
    { name := "author", type := "user", aliases := ["by"] },
    { name := "score", type := "number" }]

def operators : List OperatorDecl :=
  [{ symbol := "=", type := "any", aliases := ["is"] },
    { symbol := "!=", type := "any", aliases := ["is-not"] },
    { symbol := "before", type := "timestamp" },
    { symbol := "after", type := "timestamp" },
    { symbol := "around", type := "timestamp" },
    { symbol := ">", type := "number", aliases := ["above"] },
    { symbol := "<", type := "number", aliases := ["below"] }]

def plural (count : Decimal) (noun : String) : String :=
  if count == Decimal.one then noun else noun ++ "s"

/-- The time so long ago, if it and the span fit 64 bits. -/
def ago? (now : Int) : List String → Option Int
  | count :: unit :: _ => do
    let count ← Decimal.read? count
    let millis ← Decimal.of? false (← unitMillis? unit) 0
    let span ← (← count.mul? millis).toInt64?
    some (now - span) |>.filter Text.fitsInt64
  | _ => none

def resolveAgo (now : Int) (words : List String) : Value :=
  match ago? now words with
  | some time => .integer time
  | none => .text (" ".intercalate words)

/-- The unit that a letter most likely begins. -/
def unitLike (word : String) : String :=
  match word.toList.head? with
  | some 's' => "second"
  | some 'm' => "minute"
  | some 'h' => "hour"
  | some 'w' => "week"
  | _ => "day"

def agoExamples (words : List String) : List Example :=
  let span (count unit : String) : List Example := [{ preview := count ++ " " ++ unit ++ " ago" }]
  let amount (count : String) := (Decimal.read? count).getD .one
  match words with
  | [] => span "3" "days"
  | [count] => span count (plural (amount count) "day")
  | [count, unit] => span count (plural (amount count) (unitLike unit))
  | count :: unit :: _ => span count unit

/-- The first word as it is, or what stands in for none. -/
def echoOr (fallback : List Example) : List String → List Example
  | [] => fallback
  | word :: _ => [{ preview := word }]

def today (now : Int) : Int := now - now % (day : Int)

def phrases (now : Int) : List PhraseDecl :=
  [{ template := "<number> [sec|secs|second|seconds|min|mins|minute|minutes|hr|hrs|hour|hours|" ++
        "day|days|wk|wks|week|weeks] ago",
      type := "timestamp",
      resolver := some (resolveAgo now),
      exampler := some agoExamples },
    { template := "[now]", type := "timestamp"
      resolver := some fun _ => .integer now
      exampler := some fun _ => [{ preview := "now" }] },
    { template := "[today]", type := "timestamp"
      resolver := some fun _ => .integer (today now)
      exampler := some fun _ =>
        [{ preview := "today", detail := some "start of the current day (UTC)" }] },
    { template := "[yesterday]", type := "timestamp"
      resolver := some fun _ => .integer (today now - day)
      exampler := some fun _ =>
        [{ preview := "yesterday", detail := some "start of the previous day (UTC)" }] },
    { template := "[me]", type := "user"
      resolver := some fun _ => .text "user1"
      exampler := some fun _ => [{ preview := "me", detail := some "the signed-in user" }] },
    { template := "<timestamp>", type := "timestamp", precedence := -1
      exampler := some <| echoOr
        [{ preview := toString now, detail := some "milliseconds since the Unix epoch" }] },
    { template := "<user>", type := "user", precedence := -1
      exampler := some <| echoOr [{ preview := "user1" }, { preview := "user2" }] },
    { template := "<number>", type := "number", precedence := -1
      exampler := some <| echoOr [{ preview := "10" }] }]

def config (now : Int) : Config where
  types := types
  filters := filters
  operators := operators
  phrases := phrases now

def build (now : Int) : Except ConfigError Grammar := Grammar.build (config now)

end SearchBox.IssueGrammar
