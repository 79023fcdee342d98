import SqlSelect.Dialect.Basic
import SqlSelect.Error
import SqlSelect.Text.Blank

/-!
# `SqlSelect.Dialect.Backend`: the database products with a dialect of their own

Six products are built in. `Backend.ofName` reads the names a configuration may use for them,
`Backend.ofUrl?` the scheme of a connection URL, and `Backend.dialect` is the dialect of each.
-/

set_option autoImplicit false

namespace SqlSelect

open Text

/-- A built-in database product. -/
inductive Backend where
  | postgres
  | mySql
  | sqlite
  | oracle
  | msSql
  | derby
  deriving DecidableEq, Repr

namespace Backend

/-- All built-in products. -/
def all : List Backend :=
  [postgres, mySql, sqlite, oracle, msSql, derby]

/-- The name under which a product is known in the first place. -/
def key : Backend → String
  | postgres => "postgresql"
  | mySql => "mysql"
  | sqlite => "sqlite"
  | oracle => "oracle"
  | msSql => "mssql"
  | derby => "derby"

/-- The names of a product, in lower case. -/
def names : Backend → List String
  | postgres => ["postgresql", "postgres", "pgsql"]
  | mySql => ["mysql", "mariadb"]
  | sqlite => ["sqlite", "sqlite3"]
  | oracle => ["oracle"]
  | msSql => ["mssql", "sqlserver"]
  | derby => ["derby"]

/-- The URL schemes of a product, in lower case. -/
def schemes : Backend → List String
  | postgres => ["postgresql", "postgres"]
  | mySql => ["mysql", "mariadb"]
  | sqlite => ["sqlite"]
  | oracle => ["oracle"]
  | msSql => ["mssql", "sqlserver"]
  | derby => ["derby"]

/-- A name as it is compared: without blanks around it and in lower case. -/
def normalName (name : String) : String :=
  lowerAscii (String.ofList (trim name.toList))

/-- The product of a name, if it has one. -/
def ofName? (name : String) : Option Backend :=
  all.find? fun b => (names b).contains (normalName name)

/-- The product of a name. -/
def ofName (name : String) : Except QueryError Backend :=
  match ofName? name with
  | some b => .ok b
  | none => .error (.unknownDialect name)

/-- The product of a URL by the scheme before its first colon; behind `jdbc:` stands another
URL. -/
def ofUrlChars? (cs : List Char) : Option Backend :=
  match _h : splitAt? ':' cs with
  | none => none
  | some (scheme, rest) =>
    let scheme := lowerAscii (String.ofList scheme)
    if scheme = "jdbc" then ofUrlChars? rest
    else all.find? fun b => (schemes b).contains scheme
termination_by cs.length
decreasing_by exact length_lt_of_splitAt? _h

/-- The product of a connection URL, if its scheme belongs to one. -/
def ofUrl? (url : String) : Option Backend :=
  ofUrlChars? url.toList

/-! ### The dialects -/

/-- The same placeholder for every parameter. -/
def unnumbered (mark : String) (_ : Nat) : String :=
  mark

/-- A mark with the number of the parameter behind it. -/
def numbered (mark : String) (position : Nat) : String :=
  mark ++ toString position

/-- Truth values by their names. -/
def booleanWords (value : Bool) : String :=
  if value then "TRUE" else "FALSE"

/-- Truth values as numbers. -/
def booleanDigits (value : Bool) : String :=
  if value then "1" else "0"

/-- The dialect of PostgreSQL: limits and offsets in any combination, typed literals for dates,
and an operator that matches patterns without regard to case. -/
def postgresDialect : Dialect where
  name := "postgresql"
  openQuote := '"'
  closeQuote := '"'
  placeholder := numbered "$"
  pagination := .native
    ⟨" LIMIT \x7blimit\x7d", " LIMIT \x7blimit\x7d OFFSET \x7boffset\x7d",
      some " OFFSET \x7boffset\x7d"⟩
  booleanText := booleanWords
  maxIdentifierLength := 63
  dateLiteral d := "DATE " ++ singleQuoted d.text
  dateTimeLiteral dt := "TIMESTAMP " ++ singleQuoted (dateAndTime dt)
  caseInsensitiveLike negated := some (if negated then " NOT ILIKE " else " ILIKE ")

/-- The dialect of MySQL and MariaDB: the offset comes first and needs a limit, for which the
largest row count stands in, and a backslash escapes in a literal. -/
def mySqlDialect : Dialect where
  name := "mysql"
  openQuote := '\x60'
  closeQuote := '\x60'
  placeholder := unnumbered "?"
  pagination := .native
    ⟨" LIMIT \x7blimit\x7d", " LIMIT \x7boffset\x7d, \x7blimit\x7d",
      some " LIMIT \x7boffset\x7d, 18446744073709551615"⟩
  booleanText := booleanWords
  maxIdentifierLength := 64
  currentTimestamp := "CURRENT_TIMESTAMP()"
  escapeText s := String.ofList (doubleChar '\'' (doubleChar '\\' s.toList))
  dateTimeLiteral dt := singleQuoted (dt.date.layout "" ++ dt.time.layout "")

/-- The dialect of SQLite, where a negative limit is none. -/
def sqliteDialect : Dialect where
  name := "sqlite"
  openQuote := '"'
  closeQuote := '"'
  placeholder := unnumbered "?"
  pagination := .native
    ⟨" LIMIT \x7blimit\x7d", " LIMIT \x7blimit\x7d OFFSET \x7boffset\x7d",
      some " LIMIT -1 OFFSET \x7boffset\x7d"⟩
  booleanText := booleanDigits
  maxIdentifierLength := 1024

/-- The dialect of Oracle: rows are limited by their numbers, identifiers are short, and dates are
converted from text. -/
def oracleDialect : Dialect where
  name := "oracle"
  openQuote := '"'
  closeQuote := '"'
  placeholder := numbered ":"
  pagination := .rowNumber
  booleanText := booleanDigits
  maxIdentifierLength := 30
  currentTimestamp := "SYSTIMESTAMP"
  dateLiteral d := "TO_DATE(" ++ singleQuoted d.text ++ ", 'YYYY-MM-DD')"
  dateTimeLiteral dt :=
    "TO_DATE(" ++ singleQuoted (dateAndTime dt) ++ ", 'YYYY-MM-DD HH24:MI:SS')"

/-- The dialect of SQL Server: `TOP` limits rows, brackets quote, and a `T` joins date and
time. -/
def msSqlDialect : Dialect where
  name := "mssql"
  openQuote := '['
  closeQuote := ']'
  placeholder := numbered "@P"
  pagination := .top
  booleanText := booleanDigits
  maxIdentifierLength := 128
  currentTimestamp := "GETDATE()"
  dateTimeLiteral dt := singleQuoted (dt.date.text ++ "T" ++ dt.time.layout ":")

/-- The dialect of Derby, which cannot limit rows. -/
def derbyDialect : Dialect where
  name := "derby"
  openQuote := '"'
  closeQuote := '"'
  placeholder := unnumbered "?"
  pagination := .unsupported
  booleanText := booleanWords
  maxIdentifierLength := 128

/-- The dialect of a product. -/
def dialect : Backend → Dialect
  | postgres => postgresDialect
  | mySql => mySqlDialect
  | sqlite => sqliteDialect
  | oracle => oracleDialect
  | msSql => msSqlDialect
  | derby => derbyDialect

/-- Every product quotes names in the common form. -/
theorem quoteIdentifier_dialect (b : Backend) :
    b.dialect.quoteIdentifier = quotedName b.dialect.openQuote b.dialect.closeQuote := by
  cases b <;> rfl

/-- Every product ignores case in the common form. -/
theorem ignoreCase_dialect (b : Backend) : b.dialect.ignoreCase = foldCase := by
  cases b <;> rfl

end Backend

end SqlSelect
