import Vakil.PluginSys

/-!
# Proofs: the endpoint a `SocketAddress` denotes

An address crosses the plugin boundary as the text of a host and a port. The way back reads the host
as an IP address, and any other host as 127.0.0.1, so what an address denotes survives exactly as far
as its host is the text of an IP address that says everything about the endpoint.
-/

namespace Vakil

/-- What the hosts of addresses stand for: an IP literal for that address, a host name for the ones it
resolves to. -/
structure HostNames (net : StdNet) where
  resolve : Str → List IpAddr
  literal : ∀ host ip, net.parseIpAddr host = some ip → resolve host = [ip]

variable {net : StdNet}

namespace SocketAddress

/-- `addr` is an endpoint that `s` stands for. -/
def Denotes (names : HostNames net) (s : SocketAddress) (addr : SocketAddr) : Prop :=
  addr.ip ∈ names.resolve s.host ∧ addr.port = s.port

/-- The hosts of `s` and `t` both stand for something, and for nothing in common. -/
def HostsDiffer (names : HostNames net) (s t : SocketAddress) : Prop :=
  names.resolve s.host ≠ [] ∧ names.resolve t.host ≠ [] ∧
    ∀ ip ∈ names.resolve s.host, ip ∉ names.resolve t.host

/-- The host is a name, or 127.0.0.1 itself. -/
def ReadAsLocalhost (net : StdNet) (s : SocketAddress) : Prop :=
  ∀ ip, net.parseIpAddr s.host = some ip → ip = .v4 localhost

end SocketAddress

/-- **A `SocketAddress` denotes one endpoint**: a socket address comes back as it was (if its IP
address does), no `SocketAddress` is converted to an endpoint it does not stand for, and none with the
same port but a host that differs are converted to the same one. -/
structure DenotesOneEndpoint (net : StdNet) (names : HostNames net) : Prop where
  roundTrip : ∀ a : SocketAddr, net.parseIpAddr (net.ipToString a.ip) = some a.ip →
    (SocketAddress.ofSocketAddr net a).toSocketAddr net = a
  denotes : ∀ s : SocketAddress, s.Denotes names (s.toSocketAddr net)
  distinct : ∀ s t : SocketAddress, s.port = t.port → s.HostsDiffer names t →
    s.toSocketAddr net ≠ t.toSocketAddr net

@[simp] theorem SocketAddr.ip_new (ip : IpAddr) (port : UInt16) : (new ip port).ip = ip := by
  cases ip <;> rfl

@[simp] theorem SocketAddr.port_new (ip : IpAddr) (port : UInt16) : (new ip port).port = port := by
  cases ip <;> rfl

namespace SocketAddress

theorem toSocketAddr_literal {s : SocketAddress} {ip : IpAddr}
    (h : net.parseIpAddr s.host = some ip) : s.toSocketAddr net = .new ip s.port := by
  rw [toSocketAddr, h, Option.getD_some]

theorem toSocketAddr_name {s : SocketAddress} (h : net.parseIpAddr s.host = none) :
    s.toSocketAddr net = .v4 localhost s.port := by
  rw [toSocketAddr, h, Option.getD_none]
  rfl

theorem toSocketAddr_of_readAsLocalhost {s : SocketAddress} (h : s.ReadAsLocalhost net) :
    s.toSocketAddr net = .v4 localhost s.port := by
  cases hp : net.parseIpAddr s.host with
  | none => exact toSocketAddr_name hp
  | some ip =>
    rw [toSocketAddr_literal hp, h ip hp]
    rfl

/-- Flow info and scope id are all that is lost of a socket address. -/
theorem toSocketAddr_ofSocketAddr {a : SocketAddr}
    (h : net.parseIpAddr (net.ipToString a.ip) = some a.ip) :
    (ofSocketAddr net a).toSocketAddr net = .new a.ip a.port :=
  toSocketAddr_literal h

/-- A host name is taken for 127.0.0.1. -/
theorem denotes_iff (names : HostNames net) (s : SocketAddress) :
    s.Denotes names (s.toSocketAddr net) ↔
      (net.parseIpAddr s.host).isSome ∨ .v4 localhost ∈ names.resolve s.host := by
  unfold Denotes
  cases hp : net.parseIpAddr s.host with
  | none =>
    rw [toSocketAddr_name hp]
    simp [SocketAddr.ip, SocketAddr.port]
  | some ip =>
    rw [toSocketAddr_literal hp, names.literal _ ip hp]
    simp

theorem readAsLocalhost_name {s : SocketAddress} (h : net.parseIpAddr s.host = none) :
    s.ReadAsLocalhost net := by
  intro ip hp
  rw [h] at hp
  cases hp

/-- An address converted to 127.0.0.1 has a host that is read as it. -/
theorem readAsLocalhost_of_ip {s : SocketAddress} (h : (s.toSocketAddr net).ip = .v4 localhost) :
    s.ReadAsLocalhost net := by
  intro ip hp
  rw [toSocketAddr_literal hp, SocketAddr.ip_new] at h
  exact h

/-- Two addresses whose hosts differ are converted to different ones, unless both are read as
127.0.0.1. -/
theorem toSocketAddr_ne_iff {names : HostNames net} {s t : SocketAddress} (hport : s.port = t.port)
    (hdiffer : s.HostsDiffer names t) : s.toSocketAddr net ≠ t.toSocketAddr net ↔
      ¬ (s.ReadAsLocalhost net ∧ t.ReadAsLocalhost net) := by
  rw [not_iff_not]
  constructor
  · intro h
    have hip : (s.toSocketAddr net).ip = (t.toSocketAddr net).ip := congrArg SocketAddr.ip h
    cases hs : net.parseIpAddr s.host with
    | none =>
      rw [toSocketAddr_name hs] at hip
      exact ⟨readAsLocalhost_name hs, readAsLocalhost_of_ip hip.symm⟩
    | some i =>
      cases ht : net.parseIpAddr t.host with
      | none =>
        rw [toSocketAddr_name ht] at hip
        exact ⟨readAsLocalhost_of_ip hip, readAsLocalhost_name ht⟩
      | some j =>
        -- two literals: the hosts stand for the same address
        rw [toSocketAddr_literal hs, toSocketAddr_literal ht, SocketAddr.ip_new,
          SocketAddr.ip_new] at hip
        refine absurd ?_ (hdiffer.2.2 i (by rw [names.literal _ i hs]; exact List.mem_singleton_self i))
        rw [names.literal _ j ht, hip]
        exact List.mem_singleton_self j
  · rintro ⟨hs, ht⟩
    rw [toSocketAddr_of_readAsLocalhost hs, toSocketAddr_of_readAsLocalhost ht, hport]

end SocketAddress

/-- **What a `SocketAddress` denotes** survives exactly if nothing but an IP address and a port was to
be said: a socket address comes back if it has no flow info and no scope id, an address is converted
to an endpoint it stands for if its host is an IP literal (or stands for 127.0.0.1), and hosts that
differ are told apart unless both are read as 127.0.0.1. -/
theorem socketAddress_endpoint_iff (net : StdNet) (names : HostNames net) :
    (∀ a : SocketAddr, net.parseIpAddr (net.ipToString a.ip) = some a.ip →
      ((SocketAddress.ofSocketAddr net a).toSocketAddr net = a ↔
        ∀ octets port flowinfo scopeId, a = .v6 octets port flowinfo scopeId →
          flowinfo = 0 ∧ scopeId = 0)) ∧
    (∀ s : SocketAddress, s.Denotes names (s.toSocketAddr net) ↔
      (net.parseIpAddr s.host).isSome ∨ .v4 localhost ∈ names.resolve s.host) ∧
    (∀ s t : SocketAddress, s.port = t.port → s.HostsDiffer names t →
      (s.toSocketAddr net ≠ t.toSocketAddr net ↔
        ¬ (s.ReadAsLocalhost net ∧ t.ReadAsLocalhost net))) := by
  refine ⟨?_, SocketAddress.denotes_iff names, fun s t => SocketAddress.toSocketAddr_ne_iff⟩
  intro a ha
  rw [SocketAddress.toSocketAddr_ofSocketAddr ha]
  cases a with
  | v4 octets port => exact iff_of_true rfl nofun
  | v6 octets port flowinfo scopeId =>
    constructor
    · intro h o p f i heq
      cases h
      cases heq
      exact ⟨rfl, rfl⟩
    · intro h
      obtain ⟨rfl, rfl⟩ := h _ _ _ _ rfl
      rfl

/-- `::1`. -/
def localhostV6 : Vector UInt8 16 := #v[0, 0, 0, 0, 0, 0, 0, 0, 0, 0, 0, 0, 0, 0, 0, 1]

/-- The two loopback addresses, for concrete runs. -/
def StdNet.dualStack : StdNet where
  ipToString
    | .v4 _ => "127.0.0.1".toList
    | .v6 _ => "::1".toList
  parseIpAddr s :=
    if s = "127.0.0.1".toList then some (.v4 localhost)
    else if s = "::1".toList then some (.v6 localhostV6)
    else none
  parseSocketAddr s :=
    if s = "127.0.0.1:80".toList then some (.v4 localhost 80)
    else if s = "[::1]:80".toList then some (.v6 localhostV6 80 0 0)
    else none

def alphaIp : Vector UInt8 4 := #v[10, 0, 0, 1]

def betaIp : Vector UInt8 4 := #v[10, 0, 0, 2]

/-- Two hosts with a name each. -/
def twoHosts : HostNames .dualStack where
  resolve host :=
    match StdNet.dualStack.parseIpAddr host with
    | some ip => [ip]
    | none =>
      if host = "alpha".toList then [.v4 alphaIp]
      else if host = "beta".toList then [.v4 betaIp]
      else []
  literal host ip h := by rw [h]

/-- `127.0.0.1:80` comes back, and `::1` is told apart from a name. -/
theorem dualStack_endpoint :
    (SocketAddress.ofSocketAddr .dualStack (.v4 localhost 80)).toSocketAddr .dualStack =
        .v4 localhost 80 ∧
      SocketAddress.toSocketAddr .dualStack ⟨"::1".toList, 80⟩ ≠
        SocketAddress.toSocketAddr .dualStack ⟨"alpha".toList, 80⟩ := by
  obtain ⟨hround, -, hdistinct⟩ := socketAddress_endpoint_iff .dualStack twoHosts
  constructor
  · exact (hround (.v4 localhost 80) (by decide)).mpr nofun
  · have hdiffer : SocketAddress.HostsDiffer twoHosts ⟨"::1".toList, 80⟩ ⟨"alpha".toList, 80⟩ := by
      unfold SocketAddress.HostsDiffer
      decide
    refine (hdistinct ⟨"::1".toList, 80⟩ ⟨"alpha".toList, 80⟩ rfl hdiffer).mpr ?_
    rintro ⟨h, -⟩
    exact absurd (h (.v6 localhostV6) (by decide)) (by decide)

/-- Both names are taken for 127.0.0.1, and `[::1%3]:80` comes back without its scope id. -/
theorem dualStack_names : ¬ DenotesOneEndpoint .dualStack twoHosts ∧
    (SocketAddress.ofSocketAddr .dualStack (.v6 localhostV6 80 0 3)).toSocketAddr .dualStack ≠
      .v6 localhostV6 80 0 3 := by
  constructor
  · intro h
    have hdiffer : SocketAddress.HostsDiffer twoHosts ⟨"alpha".toList, 80⟩ ⟨"beta".toList, 80⟩ := by
      unfold SocketAddress.HostsDiffer
      decide
    exact h.distinct ⟨"alpha".toList, 80⟩ ⟨"beta".toList, 80⟩ rfl hdiffer (by decide)
  · decide

end Vakil
