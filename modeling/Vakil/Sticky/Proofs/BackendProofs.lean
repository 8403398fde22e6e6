import Vakil.Sticky.Backend
import Vakil.Proofs.AddressProofs

/-!
# Proofs: the text of addresses

The text of a socket address is split at its last colon, which finds the port of any address. The rest
is the host of a v4 address, but a v6 address is left in its brackets, and those are no part of the
text of an IP address. In the other direction a v6 host is printed without brackets, and then its own
colons are in the way.
-/

namespace Vakil.Sticky

variable {net : StdNet}

/-- What the texts of the standard library look like. -/
structure TextShapes (net : StdNet) : Prop where
  /-- The text of an IP address is not bracketed. -/
  ip : ∀ s, net.parseIpAddr ('[' :: s) = none
  /-- That of a v6 address has more than one colon. -/
  v6 : ∀ octets, 2 ≤ (net.ipToString (.v6 octets)).count ':'
  /-- The text of a socket address is bracketed or has one colon, before the port. -/
  socket : ∀ s a, net.parseSocketAddr s = some a → s.head? = some '[' ∨ s.count ':' = 1

/-- The text of `a`, as a configuration file holds it, is read as a backend with the address `a`. -/
def BackendSurvives (net : StdNet) (a : SocketAddr) : Prop :=
  ∃ s, backendToSocketAddress (a.toString net) = .ok s ∧ s.toSocketAddr net = a

/-- The text of `a` on the other side of the boundary is that of a client with the IP address of
`a`. -/
def ClientSurvives (net : StdNet) (a : SocketAddr) : Prop :=
  parseClientIp net (SocketAddress.ofSocketAddr net a).toString = some a.ip

/-- The port is what follows the last colon, whatever the host. -/
theorem backendToSocketAddress_append (host : Str) (port : UInt16) :
    backendToSocketAddress (host ++ ':' :: Nat.toDigits 10 port.toNat) = .ok ⟨host, port⟩ := by
  unfold backendToSocketAddress
  rw [Text.rsplitOnce_append (Text.not_mem_toDigits (by decide) _)]
  dsimp only
  rw [Text.parseU16_toDigits]

theorem backendSurvives_v4 {octets : Vector UInt8 4} (port : UInt16)
    (h : net.parseIpAddr (net.ipToString (.v4 octets)) = some (.v4 octets)) :
    BackendSurvives net (.v4 octets port) :=
  ⟨⟨net.ipToString (.v4 octets), port⟩, backendToSocketAddress_append _ port,
    @SocketAddress.toSocketAddr_literal net ⟨_, port⟩ (.v4 octets) h⟩

/-- The host of a v6 address keeps its brackets and is therefore read as 127.0.0.1. -/
theorem not_backendSurvives_v6 (hnet : TextShapes net) (octets : Vector UInt8 16) (port : UInt16)
    (flowinfo scopeId : UInt32) : ¬ BackendSurvives net (.v6 octets port flowinfo scopeId) := by
  rintro ⟨s, hs, ha⟩
  set scope : Str := if scopeId = 0 then [] else '%' :: Nat.toDigits 10 scopeId.toNat with hscope
  have htext : SocketAddr.toString net (.v6 octets port flowinfo scopeId) =
      ('[' :: (net.ipToString (.v6 octets) ++ scope ++ [']'])) ++
        ':' :: Nat.toDigits 10 port.toNat := by
    simp [SocketAddr.toString, hscope]
  rw [htext, backendToSocketAddress_append] at hs
  cases hs
  rw [SocketAddress.toSocketAddr_name (hnet.ip _)] at ha
  cases ha

theorem clientSurvives_v4 {octets : Vector UInt8 4} {port : UInt16}
    (h : net.parseSocketAddr (SocketAddr.toString net (.v4 octets port)) = some (.v4 octets port)) :
    ClientSurvives net (.v4 octets port) := by
  unfold ClientSurvives parseClientIp
  have htext : (SocketAddress.ofSocketAddr net (.v4 octets port)).toString =
      SocketAddr.toString net (.v4 octets port) := rfl
  rw [htext, h]
  rfl

/-- The colons of a v6 host without brackets make the text no socket address. -/
theorem not_clientSurvives_v6 (hnet : TextShapes net) {octets : Vector UInt8 16}
    (hip : net.parseIpAddr (net.ipToString (.v6 octets)) = some (.v6 octets)) (port : UInt16)
    (flowinfo scopeId : UInt32) : ¬ ClientSurvives net (.v6 octets port flowinfo scopeId) := by
  intro h
  obtain ⟨a, ha, -⟩ := Option.map_eq_some_iff.mp h
  have hcolons := hnet.v6 octets
  rcases hnet.socket _ a ha with hhead | hcount
  · cases htext : net.ipToString (.v6 octets) with
    | nil => simp [htext] at hcolons
    | cons c text =>
      obtain rfl : c = '[' := by
        simpa [SocketAddress.toString, SocketAddress.ofSocketAddr, SocketAddr.ip, htext] using hhead
      rw [htext, hnet.ip] at hip
      cases hip
  · have hsum : (SocketAddress.ofSocketAddr net (.v6 octets port flowinfo scopeId)).toString.count ':' =
        (net.ipToString (.v6 octets)).count ':' + (':' :: Nat.toDigits 10 port.toNat).count ':' :=
      List.count_append
    rw [List.count_cons_self] at hsum
    omega

/-- **The text of an address survives** the plugin boundary, in either direction, exactly if it is a v4
address. -/
theorem address_text_survives_iff (net : StdNet) (hnet : TextShapes net) (a : SocketAddr)
    (hip : net.parseIpAddr (net.ipToString a.ip) = some a.ip)
    (hsocket : ∀ octets port, a = .v4 octets port → net.parseSocketAddr (a.toString net) = some a) :
    (BackendSurvives net a ↔ ∃ octets port, a = .v4 octets port) ∧
      (ClientSurvives net a ↔ ∃ octets port, a = .v4 octets port) := by
  cases a with
  | v4 octets port =>
    exact ⟨iff_of_true (backendSurvives_v4 port hip) ⟨octets, port, rfl⟩,
      iff_of_true (clientSurvives_v4 (hsocket octets port rfl)) ⟨octets, port, rfl⟩⟩
  | v6 octets port flowinfo scopeId =>
    have hno : ¬ ∃ o p, SocketAddr.v6 octets port flowinfo scopeId = .v4 o p := nofun
    exact ⟨iff_of_false (not_backendSurvives_v6 hnet octets port flowinfo scopeId) hno,
      iff_of_false (not_clientSurvives_v6 hnet hip port flowinfo scopeId) hno⟩

theorem dualStack_shapes : TextShapes .dualStack where
  ip s := rfl
  v6 _ := (by decide : 2 ≤ "::1".toList.count ':')
  socket s a h := by
    unfold StdNet.dualStack at h
    dsimp only at h
    split_ifs at h with hv4 hv6
    · right
      rw [hv4]
      decide
    · left
      rw [hv6]
      rfl

/-- The text of 127.0.0.1:80 survives. -/
theorem address_text_survives_dualStack :
    BackendSurvives .dualStack (.v4 localhost 80) ∧ ClientSurvives .dualStack (.v4 localhost 80) := by
  obtain ⟨hbackend, hclient⟩ := address_text_survives_iff .dualStack dualStack_shapes
    (.v4 localhost 80) (by decide) (by rintro octets port h; cases h; decide)
  exact ⟨hbackend.mpr ⟨localhost, 80, rfl⟩, hclient.mpr ⟨localhost, 80, rfl⟩⟩

/-- That of `[::1]:80` does not: as a backend it is read as 127.0.0.1:80, and no IP address is found in
that of the client. -/
theorem dualStack_text_lost : ¬ BackendSurvives .dualStack (.v6 localhostV6 80 0 0) ∧
    ¬ ClientSurvives .dualStack (.v6 localhostV6 80 0 0) :=
  ⟨not_backendSurvives_v6 dualStack_shapes _ _ _ _,
    not_clientSurvives_v6 dualStack_shapes (by decide) _ _ _⟩

end Vakil.Sticky
