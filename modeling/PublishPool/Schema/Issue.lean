/-!
Problems found while checking input.

Checking a record collects one `Issue` per problem: what is wrong (`Issue.Kind`)
and where (`Issue.loc`, a path of field names, mapping keys and list indices).
Each kind has a fixed code and message; a bound in a message is written as the
field declares it. A failed check is summarised as `path: message` items joined
by `; `, the path's parts joined by dots.
-/

namespace PublishPool

/-- One step of a path into checked input. -/
inductive PathPart where
  | key (name : String)
  | index (i : Nat)
  deriving DecidableEq, Repr

/-- The text of a path part. -/
def PathPart.text : PathPart → String
  | .key name => name
  | .index i => toString i

/-- What is wrong with one input value. -/
inductive Issue.Kind where
  | stringType
  | stringUnicode
  | intType
  | intParsing
  | intParsingSize
  | intFromFloat
  | finiteNumber
  | floatType
  | floatParsing
  | boolType
  | boolParsing
  | listType
  | setType
  | dictType
  | bytesType
  | greaterThan (bound : String)
  | greaterThanEqual (bound : String)
  | lessThanEqual (bound : String)
  | enum (choices : List String)
  deriving DecidableEq, Repr

/-- A problem at a place in the input. -/
structure Issue where
  kind : Issue.Kind
  loc : List PathPart
  deriving DecidableEq, Repr

namespace Issue.Kind

/-- The code of an issue kind. -/
def code : Issue.Kind → String
  | .stringType => "string_type"
  | .stringUnicode => "string_unicode"
  | .intType => "int_type"
  | .intParsing => "int_parsing"
  | .intParsingSize => "int_parsing_size"
  | .intFromFloat => "int_from_float"
  | .finiteNumber => "finite_number"
  | .floatType => "float_type"
  | .floatParsing => "float_parsing"
  | .boolType => "bool_type"
  | .boolParsing => "bool_parsing"
  | .listType => "list_type"
  | .setType => "set_type"
  | .dictType => "dict_type"
  | .bytesType => "bytes_type"
  | .greaterThan _ => "greater_than"
  | .greaterThanEqual _ => "greater_than_equal"
  | .lessThanEqual _ => "less_than_equal"
  | .enum _ => "enum"

/-- The choices of an enumeration, quoted, with `or` before the last one. -/
def choiceText : List String → String
  | [] => ""
  | [c] => "'" ++ c ++ "'"
  | [c, d] => "'" ++ c ++ "' or '" ++ d ++ "'"
  | c :: rest => "'" ++ c ++ "', " ++ choiceText rest

/-- The message of an issue kind. -/
def message : Issue.Kind → String
  | .stringType => "Input should be a valid string"
  | .stringUnicode => "Input should be a valid string, unable to parse raw data as a unicode string"
  | .intType => "Input should be a valid integer"
  | .intParsing => "Input should be a valid integer, unable to parse string as an integer"
  | .intParsingSize => "Unable to parse input string as an integer, exceeded maximum size"
  | .intFromFloat => "Input should be a valid integer, got a number with a fractional part"
  | .finiteNumber => "Input should be a finite number"
  | .floatType => "Input should be a valid number"
  | .floatParsing => "Input should be a valid number, unable to parse string as a number"
  | .boolType => "Input should be a valid boolean"
  | .boolParsing => "Input should be a valid boolean, unable to interpret input"
  | .listType => "Input should be a valid list"
  | .setType => "Input should be a valid set"
  | .dictType => "Input should be a valid dictionary"
  | .bytesType => "Input should be a valid bytes"
  | .greaterThan b => "Input should be greater than " ++ b
  | .greaterThanEqual b => "Input should be greater than or equal to " ++ b
  | .lessThanEqual b => "Input should be less than or equal to " ++ b
  | .enum cs => "Input should be " ++ choiceText cs

end Issue.Kind

/-- An issue placed under a field or key: the name goes in front of its path. -/
def Issue.under (name : PathPart) (i : Issue) : Issue :=
  { i with loc := name :: i.loc }

/-- `path: message` for one issue. -/
def Issue.line (i : Issue) : String :=
  ".".intercalate (i.loc.map PathPart.text) ++ ": " ++ i.kind.message

/-- The summary of a failed check: its issues' lines joined by `; `. -/
def Issue.summary (issues : List Issue) : String :=
  "; ".intercalate (issues.map Issue.line)

end PublishPool
