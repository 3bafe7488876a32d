import Presence.Binary64
import Presence.Instant
import Presence.Json.Token
import Presence.Text.Blank

/-!
# MongoDB commands and replies

Commands and replies are documents. A command names a collection; its document is what is sent.
Documents that come back hold numbers in several forms, all of which are read as integers.
-/

set_option autoImplicit false

namespace Presence

/-- A value in a document. -/
inductive Bson where
  | string (s : String)
  | integer (n : Int)
  | double (x : Binary64)
  | boolean (b : Bool)
  /-- An object id by its 24 digits of base 16 in lower case. -/
  | objectId (digits : String)
  | date (t : Instant)
  | array (items : List Bson)
  | document (fields : List (String × Bson))
  /-- Any other value. -/
  | other

/-- A document. -/
abbrev BsonDocument := List (String × Bson)

namespace Bson

/-- The value of a text that names something: an object id if it is the text of one. -/
def ofId (s : String) : Bson :=
  if s.length = 24 ∧ s.toList.all fun c => (Json.Token.hexValue? c).isSome then
    .objectId (Text.lowerAscii s)
  else .string s

/-- The text of a field. -/
def text? (d : BsonDocument) (field : String) : Option String :=
  match d.lookup field with
  | some (.string s) => some s
  | _ => none

/-- The number of a field as an integer, the nearest one for a double. -/
def integer? (d : BsonDocument) (field : String) : Option Int :=
  match d.lookup field with
  | some (.integer n) => some n
  | some (.double x) => some x.round
  | _ => none

end Bson

/-- A collection of a database. -/
structure MongoCollection where
  database : String
  name : String
  deriving Repr, DecidableEq

/-- What a query asks for beside its filter. -/
structure MongoQuery where
  filter : BsonDocument
  /-- The fields that are wanted; all fields where none are named. -/
  projection : BsonDocument := []
  /-- The fields by which the documents are sorted. -/
  sort : BsonDocument := []
  /-- Only the first document is wanted. -/
  first : Bool := false

/-- A command of the service. -/
inductive MongoCommand where
  /-- Makes an index in which every combination of the keys occurs once. -/
  | createIndex (c : MongoCollection) (keys : BsonDocument) (name : String)
  | find (c : MongoCollection) (query : MongoQuery)
  /-- The next documents of an open cursor. -/
  | getMore (c : MongoCollection) (cursor : Int)
  /-- Changes the first document that a filter finds, which is made if there is none. -/
  | update (c : MongoCollection) (filter change : BsonDocument)

namespace MongoCommand

/-- A field that is sent unless its document is empty. -/
def unlessEmpty (name : String) (d : BsonDocument) : BsonDocument :=
  if d.isEmpty then [] else [(name, .document d)]

/-- The document of a command. -/
def document : MongoCommand → BsonDocument
  | .createIndex c keys name =>
    [("createIndexes", .string c.name),
     ("indexes", .array [.document [("key", .document keys), ("unique", .boolean true),
       ("name", .string name)]]),
     ("$db", .string c.database)]
  | .find c q =>
    [("find", .string c.name), ("filter", .document q.filter)] ++
      unlessEmpty "projection" q.projection ++ unlessEmpty "sort" q.sort ++
      (if q.first then [("limit", .integer 1), ("singleBatch", .boolean true)] else []) ++
      [("$db", .string c.database)]
  | .getMore c cursor =>
    [("getMore", .integer cursor), ("collection", .string c.name), ("$db", .string c.database)]
  | .update c filter change =>
    [("update", .string c.name), ("ordered", .boolean true),
     ("updates", .array [.document [("q", .document filter), ("u", .document change),
       ("upsert", .boolean true)]]),
     ("$db", .string c.database)]

end MongoCommand

/-- A reply of the server. -/
inductive MongoReply where
  /-- Documents, and the cursor by which more can be had. -/
  | batch (documents : List BsonDocument) (cursor : Option Int)
  | done
  /-- The command is refused. -/
  | refused (message : String)
  /-- The command is accepted, and the change it asks for is not made. -/
  | unwritten (message : String)

end Presence
