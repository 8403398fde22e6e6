import Vakil.PluginHost
import Vakil.Lib.StableSort

/-!
# The hook chains (`PluginProxyHooks::from_loaded`)

For each protocol, the modules of the loaded plugins in ascending order of priority, modules of
equal priority in load order (`sort_by_key` is a stable sort).
-/

namespace Vakil

open StableSort

/-- Adapter that invokes plugin modules. -/
structure PluginProxyHooks (W : Type) where
  httpModules : List (PluginHttpModule W)
  tcpModules : List (PluginTcpModule W)
  udpModules : List (PluginUdpModule W)

namespace PluginProxyHooks

variable {W : Type}

def fromLoaded (plugins : List (LoadedPlugin W)) : PluginProxyHooks W where
  httpModules := sortByKey (·.priority.toNat) (plugins.filterMap (·.modules.http))
  tcpModules := sortByKey (·.priority.toNat) (plugins.filterMap (·.modules.tcp))
  udpModules := sortByKey (·.priority.toNat) (plugins.filterMap (·.modules.udp))

end PluginProxyHooks

end Vakil
