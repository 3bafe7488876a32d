import Presence.Configuration
import Presence.Configuration.Files
import Presence.Text.Blank
import Presence.Toml.Reader

/-!
# Loading the configuration

The configuration is read from the first candidate path that yields one. A folder yields its base
file with fragments laid over it, group by group; a file yields itself. What the current
environment says is laid over either. Whatever goes wrong becomes a warning, and where every
candidate fails the configuration is the standard one.
-/

set_option autoImplicit false

namespace Presence

/-- Why a candidate yields no configuration. -/
inductive LoadError where
  | missing (path : String)
  | missingBase (path : String)
  /-- No text can be read at a path. -/
  | unreadable (path : String)
  /-- The text at a path is no document. -/
  | malformed (path : String)
  /-- The document is no configuration. -/
  | unfit
  deriving Repr, DecidableEq

/-- The message of an error. -/
def LoadError.message : LoadError → String
  | .missing path => "configuration path " ++ path ++ " does not exist"
  | .missingBase path => "missing base configuration: " ++ path
  | .unreadable path => "unable to read config fragment " ++ path
  | .malformed path => "invalid TOML content in fragment " ++ path
  | .unfit => "invalid configuration structure"

/-- Why the file of an environment cannot be used. -/
inductive OverlayError where
  | unreadable (path : String)
  | malformed (path : String)
  deriving Repr, DecidableEq

/-- The message of an error. -/
def OverlayError.message : OverlayError → String
  | .unreadable path => "无法读取环境配置文件: " ++ path
  | .malformed path => "无效的环境配置格式: " ++ path

/-- What is worth a warning while the configuration is loaded. -/
inductive LoadWarning where
  | environment (e : OverlayError)
  | candidate (path : String) (e : LoadError)
  | fallback
  deriving Repr, DecidableEq

/-- The text of a warning. -/
def LoadWarning.text : LoadWarning → String
  | .environment e => "failed to load environment config: " ++ e.message
  | .candidate path e => "failed to load config from " ++ path ++ ": " ++ e.message
  | .fallback => "no configuration source succeeded, falling back to defaults"

namespace FileTree

/-- The document at a path. -/
def document (t : FileTree) (path : String) : Except LoadError Toml :=
  match t.text? path with
  | none => .error (.unreadable path)
  | some text =>
    match Toml.read? text with
    | some v => .ok v
    | none => .error (.malformed path)

/-- A file name that marks a fragment. -/
def isFragment (name : String) : Bool :=
  match extension? name with
  | some e => Text.lowerAscii e = "toml"
  | none => false

/-- The paths of the fragments in a folder, in the order of their names. What is no folder holds
none. -/
def fragments (t : FileTree) (path : String) : List String :=
  match t.locate? path with
  | some place =>
    if t.kindAt place = some .folder then
      ((t.namesIn place).filter isFragment).map (joinPath path)
    else []
  | none => []

/-- Lays the documents at paths over a value, one after the other. -/
def overlay (t : FileTree) (base : Toml) (paths : List String) : Except LoadError Toml :=
  paths.foldlM (fun v path => (t.document path).map v.merge) base

/-- The groups of fragments, in the order in which they are laid over the base. -/
def groups : List String := ["shared", "services", "overrides"]

/-- The value of a folder. -/
def folderValue (t : FileTree) (path : String) : Except LoadError Toml := do
  let baseFile := joinPath path "base.toml"
  -- whatever stands there counts, even what cannot be read
  if (t.kind? baseFile).isNone then throw (.missingBase baseFile)
  let base ← t.document baseFile
  groups.foldlM (fun v group => t.overlay v (t.fragments (joinPath path group))) base

/-- The value at a path. -/
def value (t : FileTree) (path : String) : Except LoadError Toml :=
  match t.kind? path with
  | none => .error (.missing path)
  | some .folder => t.folderValue path
  | some (.file _) => t.document path

/-- Lays the document at a path over a value. Where there is nothing, the value stays. -/
def mergeFile (t : FileTree) (base : Toml) (path : String) : Except OverlayError Toml :=
  if (t.kind? path).isNone then .ok base
  else match t.text? path with
    | none => .error (.unreadable path)
    | some text =>
      match Toml.read? text with
      | some v => .ok (base.merge v)
      | none => .error (.malformed path)

/-- The path of what an environment says. -/
def environmentPath (environment : String) : String :=
  "config/environments/" ++ environment ++ ".toml"

end FileTree

namespace Configuration

/-- The name of the environment, from the variable that names it. -/
def environment (name : Option String) : String := name.getD "development"

/-- The configuration of a value in an environment, and what is worth a warning. -/
def finish (t : FileTree) (environment : String) (v : Toml) :
    Except LoadError Configuration × List LoadWarning :=
  let (v, warnings) := match t.mergeFile v (FileTree.environmentPath environment) with
    | .ok v => (v, [])
    | .error e => (v, [LoadWarning.environment e])
  match ofToml? v with
  | some c => (.ok c, warnings)
  | none => (.error .unfit, warnings)

/-- The configuration of a candidate, and what is worth a warning. -/
def candidate (t : FileTree) (environment path : String) :
    Except LoadError Configuration × List LoadWarning :=
  match t.value path with
  | .ok v => finish t environment v
  | .error e => (.error e, [])

/-- The configuration of the first candidate that yields one, and what is worth a warning. -/
def ofCandidates (t : FileTree) (environment : String) :
    List String → Configuration × List LoadWarning
  | [] => ({}, [.fallback])
  | path :: rest =>
    match candidate t environment path with
    | (.ok c, warnings) => (c, warnings)
    | (.error e, warnings) =>
      let (c, later) := ofCandidates t environment rest
      (c, warnings ++ .candidate path e :: later)

/-- The candidates for a path, and where no path is given. -/
def candidates (path : Option String) : List String :=
  match path with
  | some p => [p]
  | none => ["config", "config.toml"]

/-- Loads the configuration. -/
def load (t : FileTree) (environment : String) (path : Option String) :
    Configuration × List LoadWarning :=
  ofCandidates t environment (candidates path)

end Configuration

end Presence
