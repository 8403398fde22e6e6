import Vakil.Sticky.Config

/-!
# Addresses as text (example-l4-sticky)

The configuration file names a backend as `host:port`, and the contexts name a client the same way.
-/

namespace Vakil.Sticky

def backendToSocketAddress (value : Str) : Except PluginError SocketAddress :=
  match Text.rsplitOnce ':' value with
  | none => .error (pluginError ("invalid backend address ".toList ++ value))
  | some (host, port) =>
    match Text.parseU16 port with
    | none => .error (pluginError ("invalid backend port ".toList ++ value))
    | some port => .ok ⟨host, port⟩

def parseClientIp (net : StdNet) (peer : Str) : Option IpAddr :=
  (net.parseSocketAddr peer).map (·.ip)

end Vakil.Sticky
