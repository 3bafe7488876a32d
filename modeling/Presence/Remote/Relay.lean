import Presence.Json.Writer
import Presence.Remote
import Presence.Text.Float

/-!
# Servers behind a relay

A relay carries commands to the servers and replies back, both as JSON. A Redis command is an
array of words, a MongoDB command its document. A Redis reply is the value it stands for, or an
object with the text of an error; a MongoDB reply is the document of the server. Numbers and other
values that JSON does not tell apart are written in the extended form of documents.
-/

set_option autoImplicit false

namespace Presence

mutual

/-- The JSON value of a value in a document. -/
def Bson.toJson : Bson → Json
  | .string s => .string s
  | .integer n => .int n
  | .double x => .object [("$numberDouble", .string (x.text .compact))]
  | .boolean b => .bool b
  | .objectId d => .object [("$oid", .string d)]
  | .date t => .object [("$date", .object [("$numberLong", .string (toString t.millis))])]
  | .array xs => .array (Bson.itemsJson xs)
  | .document d => .object (Bson.fieldsJson d)
  | .other => .null

/-- The JSON values of the items of an array. -/
def Bson.itemsJson : List Bson → List Json
  | [] => []
  | v :: rest => v.toJson :: Bson.itemsJson rest

/-- The JSON members of the fields of a document. -/
def Bson.fieldsJson : BsonDocument → List (String × Json)
  | [] => []
  | (k, v) :: rest => (k, v.toJson) :: Bson.fieldsJson rest

end

/-- The integer of a text, zero where it is none. -/
def Bson.ofIntText (s : String) : Bson := .integer ((Text.readSigned64? s).getD 0)

mutual

/-- The value in a document of a JSON value. -/
def Bson.ofJson : Json → Bson
  | .string s => .string s
  | .int n => .integer n
  | .float x => .double x
  | .bool b => .boolean b
  | .null => .other
  | .object [("$numberInt", .string s)] => Bson.ofIntText s
  | .object [("$numberLong", .string s)] => Bson.ofIntText s
  | .object [("$numberDouble", .string s)] => .double ((Text.readFloat? s).getD .nan)
  | .object [("$numberDecimal", _)] => .other
  | .object [("$oid", .string s)] => .objectId s
  | .object fs => .document (Bson.fieldsOfJson fs)
  | .array xs => .array (Bson.itemsOfJson xs)

/-- The items of an array of JSON values. -/
def Bson.itemsOfJson : List Json → List Bson
  | [] => []
  | v :: rest => Bson.ofJson v :: Bson.itemsOfJson rest

/-- The fields of a document of JSON members. -/
def Bson.fieldsOfJson : List (String × Json) → BsonDocument
  | [] => []
  | (k, v) :: rest => (k, Bson.ofJson v) :: Bson.fieldsOfJson rest

end

/-- The document of a JSON value, an empty one where it is no object. -/
def Bson.documentOfJson (v : Json) : BsonDocument := Bson.fieldsOfJson (v.object?.getD [])

/-- A Redis command as the relay gets it. -/
def RedisCommand.toJson (c : RedisCommand) : Json := .array (c.words.map .string)

/-- A MongoDB command as the relay gets it. -/
def MongoCommand.toJson (c : MongoCommand) : Json := .object (Bson.fieldsJson c.document)

/-- A Redis reply as the relay gives it. -/
def RedisReply.ofJson : Json → RedisReply
  | .null => .nothing
  | .bool _ => .done
  | .int n => .integer n
  | .string s => .text s
  | .array xs => .list (xs.filterMap Json.string?)
  | v =>
    match (v.get? "error").bind Json.string? with
    | some e => .refused e
    | none => .octets

/-- The documents of a cursor and the cursor itself, unless it is used up. -/
def MongoReply.ofCursor (cursor : Json) : MongoReply :=
  let documents := (((cursor.get? "firstBatch").or (cursor.get? "nextBatch")).bind Json.array?).getD []
  match Bson.integer? (Bson.documentOfJson cursor) "id" with
  | some 0 => .batch (documents.map Bson.documentOfJson) none
  | id => .batch (documents.map Bson.documentOfJson) id

/-- A MongoDB reply as the relay gives it. A command is refused unless the reply says `ok`. -/
def MongoReply.ofJson (v : Json) : MongoReply :=
  if Bson.integer? (Bson.documentOfJson v) "ok" ≠ some 1 then
    .refused (((v.get? "errmsg").bind Json.string?).getD "no reply")
  else
    match (v.get? "writeErrors").bind Json.array?, v.get? "cursor" with
    | some (_ :: _), _ => .unwritten "write error"
    | _, some cursor => .ofCursor cursor
    | _, none => .done

end Presence
