/-
# What can go wrong

Every operation of the depot ends in a result or in one `Error`. An error is a
cause with the texts it speaks about; its wording is `Error.message` and is
written nowhere else.

The errors of the depot itself are those of `Error.isDepotError`: an unknown
name, a refused substitution, inconsistent definitions, an unusable resource.
The others say that an argument or the surroundings were unsuitable.

Key definitions: `Error`, `Error.message`, `Error.isDepotError`.
-/
import SchemaDepot.TextSet
import SchemaDepot.Text.Quoted

namespace SchemaDepot

/-- Why a set of substitutions is refused. -/
inductive SubstitutionFault
  /-- A declared token has no value. -/
  | missing
  /-- A value was given for a token that is not declared. -/
  | undeclared
  /-- A value is no text, holds a token, or forms one with its surroundings. -/
  | invalid
deriving DecidableEq

/-- What is inconsistent about a catalogue of schemas. -/
inductive CatalogueFault
  /-- An identifier is no text of the permitted form; shown quoted. -/
  | invalidIdentifier (quoted : String)
  /-- The schema of an identifier is no text, or blank. -/
  | emptySchema (identifier : String)
  /-- The sentinel is not among the identifiers. -/
  | sentinelAbsent (sentinel : String)
  /-- Identifiers of textual databases that are fixed identifiers too. -/
  | clash (identifiers : TextSet)
deriving DecidableEq

/-- What is unusable about a template or a set of templates. -/
inductive TemplateFault
  | emptyText (template : String)
  | emptyToken (template : String)
  /-- A declared token does not occur in the text. -/
  | tokenAbsent (token template : String)
  /-- A declared token is a part of another one. -/
  | tokenWithin (token other template : String)
  | repeatedName (template : String)
  /-- There are textual databases, but not the template they need. -/
  | textualAbsent (template : String)
  /-- The template of the textual databases declares other tokens than it must. -/
  | textualTokens (template : String) (tokens : TextSet)
deriving DecidableEq

/-- What is missing, empty or malformed about the manifest or a schema file. -/
inductive ResourceFault
  | schemaFileAbsent (path : String)
  | schemaFileEmpty (path : String)
  | manifestAbsent (path : String)
  | manifestMalformed (path : String)
  | manifestKeyRepeated (path key : String)
  | notMapping (section_ : String)
  | sentinelMissing
  | pathMissing (owner : String)
  | pathEscapes (owner root raw : String)
  | tokensNotTexts (owner : String)
  | tokensRepeated (owner : String)
  | columnTypeMissing (identifier : String)
  | columnLengthInvalid (identifier : String)
deriving DecidableEq

/-- A part of a date or of a time of day that is outside its range. -/
inductive CalendarFault
  | year (n : Nat)
  | month
  | day
  | hour
  | minute
  | second
  /-- The distance from universal time is a day or more; shown as a duration. -/
  | offset (shown : String)
deriving DecidableEq

/-- What is wrong with the value of one argument or one scalar. -/
inductive ValueFault
  | notFlag (name raw : String)
  /-- Not an integer above zero; the value is shown quoted. -/
  | notPositive (name shown : String)
  | required (name : String)
  | sqlRequired (identifier : String)
  | notAssignment (raw : String)
  /-- A numeral to be read has more digits than the limit. -/
  | numeralTooLong (limit digits : Nat)
  /-- A number to be written has more digits than the limit. -/
  | numberTooLong (limit : Nat)
  /-- A path holds the character U+0000. -/
  | nulInPath
  | notInteger (base : Nat) (quoted : String)
  | notFloat (quoted : String)
  | codePoint
  | notPair
  | calendar (fault : CalendarFault)
deriving DecidableEq

/-- How many calls can be open at a time. What would need more is too deep. -/
def callLimit : Nat := 1000

/-- The cause of a failure. -/
inductive Error
  | unknownIdentifier (shown : String)
  | unknownTemplate (shown : String)
  | substitution (fault : SubstitutionFault) (template : String) (tokens : TextSet)
  | catalogue (fault : CatalogueFault)
  | templates (fault : TemplateFault)
  | resource (fault : ResourceFault)
  | value (fault : ValueFault)
  /-- A value is of a kind that cannot be hashed, ordered, iterated or indexed
  where the operation has to. -/
  | wrongKind
  /-- A value that is no text stands where one is trimmed. -/
  | notText
  /-- The bytes of a file are not UTF-8. -/
  | notUtf8
  /-- A path holds a code point that no file name can have. -/
  | notEncodable
  /-- A value is nested too deeply to be read or shown. -/
  | tooDeep
  /-- The home directory of a named user cannot be found. -/
  | homeUnknown
  /-- A file name or a path is longer than a file tree permits. -/
  | nameTooLong
  /-- A number does not fit where it is needed. -/
  | overflow
  /-- A scalar that is declared to be a truth value has no such word. -/
  | notTruthWord
  /-- A scalar that is declared to be a number is empty. -/
  | emptyNumeral
  /-- A schema that is served is blank. -/
  | blankSchema (identifier : String)
  /-- A rendered schema still holds tokens of its template. -/
  | tokensLeft (template : String) (tokens : List String)
  /-- The last entry of a plan is not the sentinel. -/
  | sentinelNotLast
deriving DecidableEq

/-- The text a set of substitutions is refused with. -/
def SubstitutionFault.reason : SubstitutionFault → String
  | .missing => "Missing substitutions"
  | .undeclared => "Undeclared substitutions"
  | .invalid => "Invalid substitution values"

def CatalogueFault.message : CatalogueFault → String
  | .invalidIdentifier quoted => "Invalid database identifier: " ++ quoted
  | .emptySchema identifier => "Schema text for '" ++ identifier ++ "' is empty"
  | .sentinelAbsent sentinel => "Sentinel '" ++ sentinel ++ "' is not registered"
  | .clash identifiers =>
    "Textual databases clash with fixed schemas: " ++ identifiers.joined ", "

def TemplateFault.message : TemplateFault → String
  | .emptyText template => "Template '" ++ template ++ "' has empty text"
  | .emptyToken template => "Template '" ++ template ++ "' declares an empty token"
  | .tokenAbsent token template =>
    "Token '" ++ token ++ "' does not occur in template '" ++ template ++ "'"
  | .tokenWithin token other template =>
    "Token '" ++ token ++ "' is a substring of '" ++ other ++ "' in template '" ++ template ++ "'"
  | .repeatedName template => "Duplicate template name: '" ++ template ++ "'"
  | .textualAbsent template => "Textual databases need template '" ++ template ++ "'"
  | .textualTokens template tokens =>
    "Template '" ++ template ++ "' must declare exactly " ++ tokens.joined ", "

def ResourceFault.message : ResourceFault → String
  | .schemaFileAbsent path => "SQL file not found: " ++ path
  | .schemaFileEmpty path => "SQL file is empty: " ++ path
  | .manifestAbsent path => "Manifest not found: " ++ path
  | .manifestMalformed path => "Malformed manifest " ++ path
  | .manifestKeyRepeated path key =>
    "Malformed manifest " ++ path ++ ": duplicate key '" ++ key ++ "'"
  | .notMapping section_ => "Manifest section '" ++ section_ ++ "' must be a mapping"
  | .sentinelMissing => "Manifest is missing the 'sentinel' identifier"
  | .pathMissing owner => "Missing resource path for '" ++ owner ++ "'"
  | .pathEscapes owner root raw =>
    "Resource path for '" ++ owner ++ "' escapes " ++ root ++ ": " ++ raw
  | .tokensNotTexts owner => "tokens for template '" ++ owner ++ "' must be a list of strings"
  | .tokensRepeated owner => "tokens for template '" ++ owner ++ "' contain duplicates"
  | .columnTypeMissing identifier =>
    "column_type is required for textual database '" ++ identifier ++ "'"
  | .columnLengthInvalid identifier =>
    "column_length must be a positive integer for textual database '" ++ identifier ++ "'"

def CalendarFault.message : CalendarFault → String
  | .year n => "year " ++ toString n ++ " is out of range"
  | .month => "month must be in 1..12"
  | .day => "day is out of range for month"
  | .hour => "hour must be in 0..23"
  | .minute => "minute must be in 0..59"
  | .second => "second must be in 0..59"
  | .offset shown =>
    "offset must be a timedelta strictly between -timedelta(hours=24) and timedelta(hours=24), not "
      ++ shown ++ "."

def ValueFault.message : ValueFault → String
  | .notFlag name raw => name ++ " must be a boolean flag, got '" ++ raw ++ "'"
  | .notPositive name shown => name ++ " must be a positive integer, got " ++ shown
  | .required name => name ++ " is required"
  | .sqlRequired identifier => "ProvisionSpec.sql is required for '" ++ identifier ++ "'"
  | .notAssignment raw => "--set expects TOKEN=value, got '" ++ raw ++ "'"
  | .numeralTooLong limit digits =>
    "Exceeds the limit (" ++ toString limit ++ " digits) for integer string conversion: value has "
      ++ toString digits ++ " digits; use sys.set_int_max_str_digits() to increase the limit"
  | .numberTooLong limit =>
    "Exceeds the limit (" ++ toString limit ++ " digits) for integer string conversion; "
      ++ "use sys.set_int_max_str_digits() to increase the limit"
  | .nulInPath => "embedded null byte"
  | .notInteger base quoted =>
    "invalid literal for int() with base " ++ toString base ++ ": " ++ quoted
  | .notFloat quoted => "could not convert string to float: " ++ quoted
  | .codePoint => "chr() arg not in range(0x110000)"
  | .notPair => "not enough values to unpack (expected 2, got 1)"
  | .calendar fault => fault.message

/-- The tokens as a list shows them, each quoted. -/
def showTokens (tokens : List String) : String :=
  "[" ++ ", ".intercalate (tokens.map Text.quoted) ++ "]"

/-- The wording of an error. -/
def Error.message : Error → String
  | .unknownIdentifier shown => "Unknown test database identifier: '" ++ shown ++ "'"
  | .unknownTemplate shown => "Unknown dynamic template: '" ++ shown ++ "'"
  | .substitution fault template tokens =>
    fault.reason ++ " for template '" ++ template ++ "': " ++ tokens.joined ", "
  | .catalogue fault => fault.message
  | .templates fault => fault.message
  | .resource fault => fault.message
  | .value fault => fault.message
  | .wrongKind => "A value is of the wrong kind"
  | .notText => "A value is not a text"
  | .notUtf8 => "A file is not encoded in UTF-8"
  | .notEncodable => "A path cannot be written in bytes"
  | .tooDeep => "A value is nested too deeply"
  | .homeUnknown => "Could not determine home directory."
  | .nameTooLong => "A file name is too long"
  | .overflow => "A number is too large"
  | .notTruthWord => "A scalar is no truth value"
  | .emptyNumeral => "A number has no digits"
  | .blankSchema identifier => "Empty schema for " ++ identifier
  | .tokensLeft template tokens => template ++ " still contains " ++ showTokens tokens
  | .sentinelNotLast => "Expected the sentinel to be provisioned last"

/-- The error is one of the depot itself, not of an argument or the surroundings. -/
def Error.isDepotError : Error → Bool
  | .unknownIdentifier _ | .unknownTemplate _ | .substitution _ _ _
  | .catalogue _ | .templates _ | .resource _ => true
  | _ => false

end SchemaDepot
