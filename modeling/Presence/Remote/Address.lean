import Presence.Text.Blank
import Presence.Text.Decimal

/-!
# Addresses of servers

An address begins with a scheme and `://`. A Redis server is reached over the network without
encryption, or over a socket in the file system; a MongoDB address names at least one host.
-/

set_option autoImplicit false

namespace Presence.Remote

/-- The scheme in lower case and what follows `://`. -/
def scheme? (url : String) : Option (String × List Char) :=
  let cs := url.toList
  match cs.dropWhile (· ≠ ':') with
  | ':' :: '/' :: '/' :: rest => some (Text.lowerAscii (String.ofList (cs.takeWhile (· ≠ ':'))), rest)
  | _ => none

/-- A character that ends the host part of an address. -/
def endsHost (c : Char) : Bool := c = '/' || c = '?' || c = '#'

/-- The part of a text after the last character of a kind, the whole text where there is none. -/
def afterLast (c : Char) (cs : List Char) : List Char :=
  (cs.reverse.takeWhile (· ≠ c)).reverse

/-- A character that a host name can hold. -/
def isHostChar (c : Char) : Bool :=
  !("<>[\\]^|@% ".toList.contains c) && 32 < c.toNat && c.toNat ≠ 127

/-- What can follow a host name: nothing, or a colon with or without a number of 16 bits. -/
def isHostNumber (cs : List Char) : Bool :=
  match cs with
  | [] => true
  | ':' :: ds => ds.isEmpty || ((Text.digits? ds).map fun n => decide (n < 65536)).getD false
  | _ => false

/-- A host name with its number. A name in brackets can hold colons. -/
def isHost (cs : List Char) : Bool :=
  match cs with
  | '[' :: r =>
    let inside (c : Char) : Bool := c = ':' || c.isAlphanum || c = '.'
    match r.dropWhile inside with
    | ']' :: number => !(r.takeWhile inside).isEmpty && isHostNumber number
    | _ => false
  | cs =>
    let name := cs.takeWhile (· ≠ ':')
    !name.isEmpty && name.all isHostChar && isHostNumber (cs.dropWhile (· ≠ ':'))

/-- The number of a database, which can be left out. -/
def isDatabase (cs : List Char) : Bool :=
  let path := ((cs.dropWhile (· = '/')).reverse.dropWhile (· = '/')).reverse
  path.isEmpty || (Text.readSigned64? (String.ofList path)).isSome

/-- The address of a Redis server. -/
def isRedisAddress (url : String) : Bool :=
  match scheme? (Text.trim url) with
  | some (scheme, rest) =>
    let authority := rest.takeWhile fun c => !endsHost c
    let path := (rest.dropWhile fun c => !endsHost c).takeWhile fun c => c ≠ '?' && c ≠ '#'
    if scheme = "redis" || scheme = "valkey" then
      isHost (afterLast '@' authority) && isDatabase path
    else
      (scheme = "unix" || scheme = "redis+unix" || scheme = "valkey+unix") &&
        authority.isEmpty && path.head? = some '/'
  | none => false

/-- The address of a MongoDB server. -/
def isMongoAddress (url : String) : Bool :=
  match scheme? url with
  | some (scheme, rest) =>
    let authority := rest.takeWhile (· ≠ '/')
    let hosts := (String.ofList (afterLast '@' authority)).splitOn ","
    (scheme = "mongodb" || scheme = "mongodb+srv") && !authority.contains '?' &&
      hosts.all fun h => isHost h.toList
  | none => false

end Presence.Remote
