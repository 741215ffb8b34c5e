namespace SearchBox

/-- A JSON document without fractions. -/
inductive Json where
  | null
  | bool (b : Bool)
  | number (n : Int)
  | string (s : String)
  | array (items : List Json)
  | object (fields : List (String × Json))
  deriving Inhabited

namespace Json

inductive Layout where
  | compact
  | pretty
  deriving DecidableEq

def hexDigits (width n : Nat) : String :=
  let digits := Nat.toDigits 16 n
  String.ofList (List.replicate (width - digits.length) '0' ++ digits)

/-- Controls below the space are escaped, and nothing above it but the quote and the backslash. -/
def escapeChar (c : Char) : String :=
  if c = '"' then "\\\""
  else if c = '\\' then "\\\\"
  else if c = '\x08' then "\\b"
  else if c = '\t' then "\\t"
  else if c = '\n' then "\\n"
  else if c = '\x0c' then "\\f"
  else if c = '\r' then "\\r"
  else if c.toNat < 0x20 then "\\u" ++ hexDigits 4 c.toNat
  else c.toString

def renderString (s : String) : String :=
  "\"" ++ String.join (s.toList.map escapeChar) ++ "\""

namespace Layout

def newline (layout : Layout) (depth : Nat) : String :=
  match layout with
  | compact => ""
  | pretty => "\n" ++ String.ofList (List.replicate (2 * depth) ' ')

def colon : Layout → String
  | compact => ":"
  | pretty => ": "

/-- Items between brackets, one to a line when pretty; without items the brackets touch. -/
def enclose (layout : Layout) (depth : Nat) (opening closing : String) (items : List String) :
    String :=
  if items.isEmpty then opening ++ closing
  else
    opening ++ layout.newline (depth + 1) ++
      String.intercalate ("," ++ layout.newline (depth + 1)) items ++
      layout.newline depth ++ closing

end Layout

/-- Puts a field in its place by key; of two fields with one key the later stays. -/
def insertField {α : Type} (field : String × α) : List (String × α) → List (String × α)
  | [] => [field]
  | f :: fs =>
    if field.1 < f.1 then field :: f :: fs
    else if field.1 = f.1 then field :: fs
    else f :: insertField field fs

def sortFields {α : Type} (fields : List (String × α)) : List (String × α) :=
  fields.foldl (fun sorted field => insertField field sorted) []

mutual

/-- The text of a document whose first line starts at `depth`; keys come in ascending order. -/
def renderAt (layout : Layout) (depth : Nat) : Json → String
  | null => "null"
  | bool b => if b then "true" else "false"
  | number n => toString n
  | string s => renderString s
  | array items => layout.enclose depth "[" "]" (renderItems layout (depth + 1) items)
  | object fields =>
    layout.enclose depth "\x7b" "\x7d" <|
      (sortFields (renderFields layout (depth + 1) fields)).map fun (key, value) =>
        renderString key ++ layout.colon ++ value

def renderItems (layout : Layout) (depth : Nat) : List Json → List String
  | [] => []
  | item :: items => renderAt layout depth item :: renderItems layout depth items

def renderFields (layout : Layout) (depth : Nat) : List (String × Json) → List (String × String)
  | [] => []
  | (key, value) :: fields => (key, renderAt layout depth value) :: renderFields layout depth fields

end

def render (layout : Layout) (json : Json) : String := renderAt layout 0 json

def strings (items : List String) : Json := array (items.map string)

end Json

end SearchBox
