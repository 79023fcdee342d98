/-!
# `SqlSelect.Error`: what can go wrong

One type of error serves building, rendering and the look-up of dialects and databases. Each
constructor is a cause; `QueryError.message` words it and `QueryError.code` names it.
-/

set_option autoImplicit false

namespace SqlSelect

/-- A cause of failure. -/
inductive QueryError where
  /-- An expression names neither a qualified column nor a wildcard. -/
  | malformedColumn (column : String)
  /-- An operator does not go with its right side. -/
  | invalidOperator (operator message : String)
  /-- An argument lies outside its range. -/
  | invalidArgument (message : String)
  /-- A dialect cannot express a limit or an offset. -/
  | unsupportedPagination (dialect message : String)
  /-- A name stands for no dialect. -/
  | unknownDialect (name : String)
  /-- A name stands for no database. -/
  | unknownDatabase (name : String)
  /-- A name is longer than a dialect allows. -/
  | identifierTooLong (identifier dialect : String) (maxLength : Nat)
  /-- A configuration contradicts itself or cannot be read. -/
  | config (message : String)
  deriving DecidableEq, Repr

namespace QueryError

/-- The error in words. -/
def message : QueryError → String
  | malformedColumn column =>
    "Malformed column reference '" ++ column ++ "': expected 'table.column' or a wildcard"
  | invalidOperator operator message =>
    "Invalid use of operator " ++ operator ++ ": " ++ message
  | invalidArgument message => "Invalid argument: " ++ message
  | unsupportedPagination dialect message =>
    "Pagination not supported by " ++ dialect ++ ": " ++ message
  | unknownDialect name => "Unknown database dialect: " ++ name
  | unknownDatabase name => "Database '" ++ name ++ "' is not configured"
  | identifierTooLong identifier dialect maxLength =>
    "Identifier '" ++ identifier ++ "' exceeds the " ++ dialect ++ " limit of " ++
      toString maxLength ++ " characters"
  | config message => "Configuration error: " ++ message

/-- The stable name of the kind of error. -/
def code : QueryError → String
  | malformedColumn _ => "E_MALFORMED_COLUMN"
  | invalidOperator _ _ => "E_INVALID_OPERATOR"
  | invalidArgument _ => "E_INVALID_ARGUMENT"
  | unsupportedPagination _ _ => "E_UNSUPPORTED_PAGINATION"
  | unknownDialect _ => "E_UNKNOWN_DIALECT"
  | unknownDatabase _ => "E_UNKNOWN_DATABASE"
  | identifierTooLong _ _ _ => "E_IDENTIFIER_TOO_LONG"
  | config _ => "E_CONFIG"

/-- Whether the shape of the query is at fault, and not the configuration. -/
def isQueryError : QueryError → Bool
  | unknownDialect _ | unknownDatabase _ | config _ => false
  | _ => true

end QueryError

end SqlSelect
