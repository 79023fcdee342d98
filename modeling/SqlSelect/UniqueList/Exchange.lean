import SqlSelect.Json.Printer
import SqlSelect.Json.Reader
import SqlSelect.UniqueList

/-!
# `SqlSelect.UniqueList.Exchange`: unique lists of texts as JSON text

A unique list of texts is exchanged as an object whose member `items` is the array of them. When
it is read, other members are ignored, the array may also stand alone inside another array, and
repetitions are dropped.
-/

set_option autoImplicit false

namespace SqlSelect.UniqueList

open Json

/-- The list as JSON text. -/
def exchangeText (l : UniqueList String) : String :=
  "\x7b" ++ textOfString "items" ++ ":[" ++
    String.intercalate "," (l.toList.map textOfString) ++ "]\x7d"

/-- The text of a document that is a string. -/
def readItem? : Document → Option String
  | .text units => decodeText? units
  | _ => none

/-- The texts of a document that is an array of strings. -/
def readItems? : Document → Option (List String)
  | .array items => items.mapM readItem?
  | _ => none

/-- The document of the only member `items`. -/
def itemsMember? (members : List (List TextUnit × Document)) : Option Document := do
  let named ← members.mapM fun (key, document) => (decodeText? key).map fun name => (name, document)
  match named.filter fun (name, _) => name == "items" with
  | [(_, document)] => return document
  | _ => none

/-- The document of the items in the document of a list. -/
def itemsDocument? : Document → Option Document
  | .object members => itemsMember? members
  | .array [document] => some document
  | _ => none

/-- Reads the JSON text of a list. -/
def readExchange? (s : String) : Option (UniqueList String) := do
  let document ← Document.read? s
  let items ← itemsDocument? document
  let texts ← readItems? items
  return ofList texts

end SqlSelect.UniqueList
