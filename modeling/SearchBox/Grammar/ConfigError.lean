namespace SearchBox

/-- Why a grammar cannot be built. -/
inductive ConfigError where
  | duplicateType (name : String)
  | unknownType (name : String)
  | duplicateFilter (spelling : String)
  | duplicateOperator (spelling : String)
  | malformedSlot (template slot : String)
  | emptyTemplate (template : String)
  deriving DecidableEq

def ConfigError.message : ConfigError → String
  | duplicateType name => "redeclared type: \"" ++ name ++ "\""
  | unknownType name => "unknown type: \"" ++ name ++ "\""
  | duplicateFilter spelling => "redeclared filter name or alias: \"" ++ spelling ++ "\""
  | duplicateOperator spelling => "redeclared operator symbol or alias: \"" ++ spelling ++ "\""
  | malformedSlot template slot =>
    "invalid macro token \"" ++ slot ++ "\" in template \"" ++ template ++ "\""
  | emptyTemplate template => "macro template is empty: \"" ++ template ++ "\""

end SearchBox
