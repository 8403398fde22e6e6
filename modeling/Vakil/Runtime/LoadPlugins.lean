import Vakil.PluginHost
import Vakil.Lib.ForLoop

/-!
# Plugin loading at startup (`load_plugins`)

`loadPlugins` goes through the configured paths: the libraries of a directory, a library file, or
nothing for a path that does not exist. An error leaves both loops and drops the plugins loaded so far,
in load order.
-/

namespace Vakil

open ForLoop

/-- What the file system answers. Paths are text. -/
structure FsEnv where
  isDir : Str → Bool
  isFile : Str → Bool
  /-- `fs::read_dir`: the paths of the entries in enumeration order; an entry can fail, too. -/
  readDir : Str → Except Str (List (Except Str Str))
  /-- `Path::extension`, when it is Unicode. -/
  extension : Str → Option Str

def dllExtension : Str := "so".toList

def isPluginLibrary (fs : FsEnv) (path : Str) : Bool := fs.extension path = some dllExtension

variable {W : Type}

/-- The plugins loaded so far and the process they live in. -/
structure Loading (W : Type) where
  plugins : List (LoadedPlugin W)
  host : Host W

/-- `plugins.push(LoadedPlugin::load(path)?)`. -/
def pushLoaded (env : HostEnv W) (path : Str) (l : Loading W) : Step (Loading W) Str :=
  match LoadedPlugin.load env path l.host with
  | (.ok plugin, host) => .next ⟨l.plugins ++ [plugin], host⟩
  | (.error e, host) => .stop e ⟨l.plugins, host⟩

def entryRound (env : HostEnv W) (fs : FsEnv) (entry : Except Str Str) (l : Loading W) :
    Step (Loading W) Str :=
  match entry with
  | .error e => .stop e l
  | .ok candidate =>
    if fs.isFile candidate && isPluginLibrary fs candidate then pushLoaded env candidate l
    else .next l

def pathRound (env : HostEnv W) (fs : FsEnv) (path : Str) (l : Loading W) : Step (Loading W) Str :=
  if fs.isDir path then
    match fs.readDir path with
    | .error _ => .stop ("read plugin directory ".toList ++ path) l
    | .ok entries => forEach (entryRound env fs) entries l
  else if fs.isFile path then pushLoaded env path l
  else .next l

def dropPlugins (plugins : List (LoadedPlugin W)) (h : Host W) : Host W :=
  plugins.foldl (fun h plugin => plugin.drop h) h

def loadPlugins (env : HostEnv W) (fs : FsEnv) (paths : List Str) (h : Host W) :
    Except Str (List (LoadedPlugin W)) × Host W :=
  match forEach (pathRound env fs) paths ⟨[], h⟩ with
  | .next l => (.ok l.plugins, l.host)
  | .stop e l => (.error e, dropPlugins l.plugins l.host)

def Host.start (w : W) : Host W where
  world := w
  events := []
  nextHandle := 0

end Vakil
