import Vakil.PluginSys
import Vakil.Lib.ForLoop
import Vakil.Lib.Text

/-!
# The runtime configuration (`RuntimeConfig::from_env`, `parse_config_file`)

The environment gives every setting a value, and a config file may override two of them. A config file
is read line by line: a line is blank, a comment or a setting `key = "value"`. An error is its
outermost message.
-/

namespace Vakil

open ForLoop

/-- The settings of a config file. Paths are text. -/
structure RuntimeOverrides where
  httpListenAddr : Option Str
  pluginPaths : Option (List Str)
deriving DecidableEq, Repr

def httpListenAddrKey : Str := "http_listen_addr".toList

def pluginPathsKey : Str := "plugin_paths".toList

def parseConfigValue (input : Str) : Except Str Str :=
  match (Text.stripPrefix '"' input).bind (Text.stripSuffix '"') with
  | none => .error ("config values must be quoted strings: ".toList ++ input)
  | some stripped => .ok stripped

/-- The trimmed segments that are not empty. -/
def parsePluginPaths (raw separator : Str) : List Str :=
  if Text.trim raw = [] then []
  else ((Text.splitStr separator raw).map Text.trim).filter fun entry => !entry.isEmpty

def pathEntryRound (entry : Str × Nat) (paths : List Str) : Step (List Str) Str :=
  if Text.trim entry.1 = [] then
    .stop ("invalid empty plugin path entry at position ".toList ++
      Nat.toDigits 10 (entry.2 + 1)) paths
  else .next (paths ++ [Text.trim entry.1])

def parsePluginPathsStrict (raw : Str) : Except Str (List Str) :=
  if Text.trim raw = [] then .ok []
  else
    match forEach pathEntryRound (raw.splitOn ';').zipIdx [] with
    | .next paths => .ok paths
    | .stop e _ => .error e

/-- Store the value of a key that was not set before. -/
def applySetting (net : StdNet) (path key value : Str) (overrides : RuntimeOverrides) :
    Step RuntimeOverrides Str :=
  if key = httpListenAddrKey then
    if overrides.httpListenAddr.isSome then
      .stop ("duplicate http_listen_addr in config file: ".toList ++ path) overrides
    else
      match net.parseSocketAddr value with
      | none => .stop ("invalid http_listen_addr value in ".toList ++ path) overrides
      | some _ => .next { overrides with httpListenAddr := some value }
  else if key = pluginPathsKey then
    if overrides.pluginPaths.isSome then
      .stop ("duplicate plugin_paths in config file: ".toList ++ path) overrides
    else
      match parsePluginPathsStrict value with
      | .error e => .stop e overrides
      | .ok paths => .next { overrides with pluginPaths := some paths }
  else
    .stop ("unknown config key ".toList ++ key ++ " in ".toList ++ path) overrides

/-- A trimmed line that is neither blank nor a comment. -/
def settingRound (net : StdNet) (path line : Str) (overrides : RuntimeOverrides) :
    Step RuntimeOverrides Str :=
  match Text.splitOnce '=' line with
  | none => .stop ("invalid config line: ".toList ++ line) overrides
  | some (key, value) =>
    match parseConfigValue (Text.trim value) with
    | .error e => .stop e overrides
    | .ok value => applySetting net path (Text.trim key) value overrides

/-- One line of the file. -/
def lineRound (net : StdNet) (path rawLine : Str) (overrides : RuntimeOverrides) :
    Step RuntimeOverrides Str :=
  if Text.trim rawLine = [] || (Text.trim rawLine).head? = some '#' then .next overrides
  else settingRound net path (Text.trim rawLine) overrides

/-- `readToString path` is what reading the file gives, `none` for an error. -/
def parseConfigFile (net : StdNet) (readToString : Str → Option Str) (path : Str) :
    Except Str RuntimeOverrides :=
  match readToString path with
  | none => .error ("read runtime config file ".toList ++ path)
  | some content =>
    match forEach (lineRound net path) (Text.lines content) ⟨none, none⟩ with
    | .next overrides => .ok overrides
    | .stop e _ => .error e

/-! ## The environment -/

structure RuntimeConfig where
  httpListenAddr : Str
  tcpListenAddr : Str
  udpListenAddr : Str
  pluginPaths : List Str
deriving DecidableEq, Repr

/-- `var name` is `env::var(name)`, `none` for a variable that is not set or not Unicode. -/
def RuntimeConfig.fromEnv (net : StdNet) (var : Str → Option Str)
    (readToString : Str → Option Str) : Except Str RuntimeConfig :=
  let config : RuntimeConfig :=
    { httpListenAddr := (var "VAKIL_HTTP_LISTEN_ADDR".toList).getD "127.0.0.1:12345".toList
      tcpListenAddr := (var "VAKIL_TCP_LISTEN_ADDR".toList).getD "127.0.0.1:12346".toList
      udpListenAddr := (var "VAKIL_UDP_LISTEN_ADDR".toList).getD "127.0.0.1:12347".toList
      pluginPaths := parsePluginPaths ((var "VAKIL_PLUGIN_PATHS".toList).getD [])
        ((var "VAKIL_PATH_SEP".toList).getD ";".toList) }
  match var "VAKIL_CONFIG".toList with
  | none => .ok config
  | some configPath =>
    match parseConfigFile net readToString configPath with
    | .error e => .error e
    | .ok overrides => .ok
      { config with
        httpListenAddr := overrides.httpListenAddr.getD config.httpListenAddr
        pluginPaths := overrides.pluginPaths.getD config.pluginPaths }

end Vakil
