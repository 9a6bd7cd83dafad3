/-!
# Flaws of a document

A document is read against a schema, and everything wrong with it is reported at once: a flaw is a
cause and the path to the place.  `Cause.code` is the short name of a cause, `Cause.text` the
sentence that a person is shown.
-/

namespace Storekeeper

/-- One step of the path to a place in a document. -/
inductive Place where
  | key (name : String)
  | index (n : Nat)
  deriving DecidableEq, Repr

/-- The step as it is shown in a dotted path. -/
def Place.text : Place → String
  | key name => name
  | index n => toString n

/-- What is wrong at a place. -/
inductive Cause where
  | missing
  | unknownMember
  | notText
  | notList
  | notMap
  | notRecord (record : String)
  | notTagged
  | noTag
  | unknownTag
  | notChoice
  | notLiteral
  | notInteger
  | notIntegerText
  | fraction
  | integerTooLarge
  | notFinite
  | notPositive
  | notNumber
  | notNumberText
  | notTruth
  | notTruthText
  | rejected (reason : String)
  deriving DecidableEq, Repr

namespace Cause

/-- The short name of a cause. -/
def code : Cause → String
  | missing => "missing"
  | unknownMember => "extra_forbidden"
  | notText => "string_type"
  | notList => "list_type"
  | notMap => "dict_type"
  | notRecord _ => "model_type"
  | notTagged => "model_attributes_type"
  | noTag => "union_tag_not_found"
  | unknownTag => "union_tag_invalid"
  | notChoice => "enum"
  | notLiteral => "literal_error"
  | notInteger => "int_type"
  | notIntegerText => "int_parsing"
  | fraction => "int_from_float"
  | integerTooLarge => "int_parsing_size"
  | notFinite => "finite_number"
  | notPositive => "greater_than"
  | notNumber => "float_type"
  | notNumberText => "float_parsing"
  | notTruth => "bool_type"
  | notTruthText => "bool_parsing"
  | rejected _ => "value_error"

/-- The sentence that says what is wrong. -/
def text : Cause → String
  | missing => "Field required"
  | unknownMember => "Extra inputs are not permitted"
  | notText => "Input should be a valid string"
  | notList => "Input should be a valid list"
  | notMap => "Input should be a valid dictionary"
  | notRecord record => "Input should be a valid dictionary or instance of " ++ record
  | notTagged => "Input should be a valid dictionary or object to extract fields from"
  | noTag => "Unable to extract tag using discriminator 'type'"
  | unknownTag => "Input tag found using 'type' does not match any of the expected tags"
  | notChoice => "Input should be 'list_products' or 'add_product'"
  | notLiteral => "Input should be 'text' or 'image'"
  | notInteger => "Input should be a valid integer"
  | notIntegerText => "Input should be a valid integer, unable to parse string as an integer"
  | fraction => "Input should be a valid integer, got a number with a fractional part"
  | integerTooLarge =>
    "Unable to parse input string as an integer, exceeded maximum size"
  | notFinite => "Input should be a finite number"
  | notPositive => "Input should be greater than 0"
  | notNumber => "Input should be a valid number"
  | notNumberText => "Input should be a valid number, unable to parse string as a number"
  | notTruth => "Input should be a valid boolean"
  | notTruthText => "Input should be a valid boolean, unable to interpret input"
  | rejected reason => "Value error, " ++ reason

end Cause

/-- Something wrong at a place of a document. -/
structure Flaw where
  path : List Place
  cause : Cause
  deriving DecidableEq, Repr

/-- The path of a flaw, its steps divided by dots. -/
def Flaw.pathText (flaw : Flaw) : String :=
  ".".intercalate (flaw.path.map Place.text)

end Storekeeper
