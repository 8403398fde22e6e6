import Vakil.Runtime.Config
import Vakil.Runtime.LoadPlugins

/-!
# Start-up (`vakil-cli`'s `main`, `Runtime::build`)

A config file given on the command line is put in the environment, where the runtime looks for it and
where the plugins find it, too. The configuration comes before the plugins: an error in it leaves no
library opened.
-/

namespace Vakil

variable {W : Type}

/-- `std::env::var`. -/
def envVar (vars : List KVPair) (name : Str) : Option Str :=
  (vars.find? fun entry => entry.name = name).map (·.value)

/-- `std::env::set_var`: in place, if the variable is set already. -/
def setEnvVar (name value : Str) : List KVPair → List KVPair
  | [] => [⟨name, value⟩]
  | entry :: vars =>
    if entry.name = name then ⟨name, value⟩ :: vars else entry :: setEnvVar name value vars

def configVar : Str := "VAKIL_CONFIG".toList

/-- The arguments; the verbosity is left out. -/
structure Cli where
  config : Option Str
deriving DecidableEq, Repr

/-- What the process finds when it starts. -/
structure Process (W : Type) where
  vars : List KVPair
  readToString : Str → Option Str
  fs : FsEnv
  net : StdNet
  dlopen : Str → W → Except Str (DynLib W) × W
  parent : Str → Option Str

/-- `Runtime`, without the reference count of its plugins. -/
structure Runtime (W : Type) where
  config : RuntimeConfig
  plugins : List (LoadedPlugin W)

def Runtime.build (env : HostEnv W) (fs : FsEnv) (config : RuntimeConfig) (h : Host W) :
    Except Str (Runtime W) × Host W :=
  match loadPlugins env fs config.pluginPaths h with
  | (.error e, h) => (.error e, h)
  | (.ok plugins, h) => (.ok ⟨config, plugins⟩, h)

namespace Process

/-- The environment once the arguments have been looked at. -/
def environment (p : Process W) (cli : Cli) : List KVPair :=
  match cli.config with
  | none => p.vars
  | some path => setEnvVar configVar path p.vars

def hostEnv (p : Process W) (cli : Cli) : HostEnv W where
  dlopen := p.dlopen
  parent := p.parent
  vars := p.environment cli

/-- `RuntimeConfig::from_env` in this process. -/
def config (p : Process W) (cli : Cli) : Except Str RuntimeConfig :=
  RuntimeConfig.fromEnv p.net (envVar (p.environment cli)) p.readToString

/-- `main` until there is a runtime to run. -/
def start (p : Process W) (cli : Cli) (w : W) : Except Str (Runtime W) × Host W :=
  match p.config cli with
  | .error e => (.error e, .start w)
  | .ok config => Runtime.build (p.hostEnv cli) p.fs config (.start w)

end Process

end Vakil
