import RecordGrid.Json.Reading
import RecordGrid.Json.Record
import RecordGrid.Schema.Writing
import RecordGrid.Text.Blank

/-!
# Configuration

A file that the environment names gives the settings of a session, and two more
variables replace single ones.
-/

namespace RecordGrid

structure Config where
  logPath : String := "grid-app.log"
  userRole : Option String := none
  schemaPath : Option String := none
  dataPath : Option String := none
  lookupOptionsPath : Option String := none
  lookupBaseUrl : Option String := none
  lookupTimeoutMs : Nat := 5000
  demoEndpointAddr : Option String := none
deriving DecidableEq, Repr

/-- The variables that matter, where they are set. -/
structure Environment where
  configFile : Option String := none
  role : Option String := none
  logFile : Option String := none

inductive ConfigError where
  | unreadable
  | malformed
deriving DecidableEq, Repr

namespace Config

def keys : List String :=
  ["log_path", "user_role", "schema_path", "data_path", "lookup_options_path",
    "lookup_base_url", "lookup_timeout_ms", "demo_endpoint_addr"]

def ofJson? (j : Json) : Option Config := do
  let r ← Json.record? keys j
  let logPath ← Json.defaulted r "log_path" "grid-app.log" Json.asStr?
  let userRole ← Json.optional r "user_role" Json.asStr?
  let schemaPath ← Json.optional r "schema_path" Json.asStr?
  let dataPath ← Json.optional r "data_path" Json.asStr?
  let lookupOptionsPath ← Json.optional r "lookup_options_path" Json.asStr?
  let lookupBaseUrl ← Json.optional r "lookup_base_url" Json.asStr?
  let lookupTimeoutMs ← Json.defaulted r "lookup_timeout_ms" 5000 Json.asCount?
  let demoEndpointAddr ← Json.optional r "demo_endpoint_addr" Json.asStr?
  some
    { logPath, userRole, schemaPath, dataPath, lookupOptionsPath, lookupBaseUrl,
      lookupTimeoutMs, demoEndpointAddr }

def toJson (c : Config) : Json :=
  .obj
    [("log_path", .str c.logPath), ("user_role", Json.ofOption .str c.userRole),
      ("schema_path", Json.ofOption .str c.schemaPath),
      ("data_path", Json.ofOption .str c.dataPath),
      ("lookup_options_path", Json.ofOption .str c.lookupOptionsPath),
      ("lookup_base_url", Json.ofOption .str c.lookupBaseUrl),
      ("lookup_timeout_ms", Json.ofNat c.lookupTimeoutMs),
      ("demo_endpoint_addr", Json.ofOption .str c.demoEndpointAddr)]

/-- The configuration in a file; without a file all settings are defaults. -/
def ofFile (contents : String → Option String) : Option String → Except ConfigError Config
  | none => .ok {}
  | some path =>
      match contents path with
      | none => .error .unreadable
      | some text =>
          match (Json.parsePart? (.record keys) text).bind ofJson? with
          | none => .error .malformed
          | some c => .ok c

/-- A role in the environment counts even when it is empty, as none; an empty
path to the log does not. -/
def override (env : Environment) (c : Config) : Config :=
  { c with
    userRole := env.role.elim c.userRole fun role => if role.isEmpty then none else some role
    logPath := (env.logFile.filter fun path => !path.isEmpty).getD c.logPath }

/-- The configuration of a session, `contents` being what files hold. -/
def load (contents : String → Option String) (env : Environment) : Except ConfigError Config :=
  (ofFile contents (env.configFile.filter fun path => !Text.allBlank path)).map (override env)

end Config

end RecordGrid
