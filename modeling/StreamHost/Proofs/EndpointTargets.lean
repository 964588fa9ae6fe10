import StreamHost.Client.Blueprint
import StreamHost.Proofs.AddressTexts
import StreamHost.Server.Blueprint

/-!
Targets that are made of endpoints. The target of a socket address is written as that address without its
scope, and read as that address. So it names the endpoint it was made of exactly if there is no scope:
on the way to the text of a host the scope is lost. Servers and clients that are given a socket address
take the same way.
-/

namespace StreamHost.Address

/-- The scope, 0 for none. -/
def SocketAddress.scope : SocketAddress → UInt32
  | v4 _ _ => 0
  | v6 _ _ s => s

/-- The address without its scope is the same address if it has none. -/
theorem SocketAddress.ofIp_eq_iff (a : SocketAddress) : ofIp a.ip a.port = a ↔ a.scope = 0 := by
  cases a with
  | v4 => simp [ofIp, ip, port, scope]
  | v6 => simp [ofIp, ip, port, scope, eq_comm]

theorem Ipv4.colon_notMem_text (ip : Ipv4) : ':' ∉ ip.text.toList := by
  have plain : ∀ n, ':' ∉ Nat.toDigits 10 n := fun n member =>
    absurd (Nat.isDigit_of_mem_toDigits (by decide) (by decide) member) (by decide)
  simp [toList_text, plain]

theorem Ipv6.colon_mem_text (ip : Ipv6) : ':' ∈ ip.text.toList := by
  unfold text
  split
  · simp
  · dsimp only
    split
    · simp
    · rw [toList_groupsText]
      have count : ip.groups.toList.length = 8 := by simp
      match ip.groups.toList, count with
      | _ :: _ :: _, _ => exact mem_groupChars

/-- Brackets stand where the text of a socket address has them. -/
theorem Target.text_ofEndpoint (a : SocketAddress) :
    (ofEndpoint (.inet a)).text = (SocketAddress.ofIp a.ip a.port).text := by
  have bracket : ∀ host : String, "[" ++ host ++ "]" ++ ":" = "[" ++ host ++ "]:" := fun host =>
    String.append_assoc
  cases a with
  | v4 ip p =>
    simp [ofEndpoint, text, SocketAddress.ip, SocketAddress.port, SocketAddress.ofIp, Ip.text,
      ip.colon_notMem_text, SocketAddress.text]
  | v6 ip p scope =>
    simp [ofEndpoint, text, SocketAddress.ip, SocketAddress.port, SocketAddress.ofIp, Ip.text,
      ip.colon_mem_text, SocketAddress.text, bracket]

/-- Different socket addresses have different texts. -/
theorem SocketAddress.text_injective : Function.Injective text := by
  intro a b same
  have read := congrArg parse? same
  rw [parse?_text, parse?_text] at read
  exact Option.some.inj read

theorem Options.target_withSocketAddress {o : Options} (inet : o.unixPath = none) (a : SocketAddress) :
    (o.withSocketAddress a).target = .ok (.ofEndpoint (.inet a)) := by
  simp [withSocketAddress, target, inet, Target.ofEndpoint]

/-- The target of a socket address is written and read as that address without its scope, and so it
names the endpoint of the address exactly if that has no scope. Whoever is given the address to listen at
or to connect to has this very target. -/
theorem target_names_unscoped_endpoint (a : SocketAddress) :
    let target := Target.ofEndpoint (.inet a)
    target.text = (SocketAddress.ofIp a.ip a.port).text ∧
      SocketAddress.parse? target.text = some (.ofIp a.ip a.port) ∧
      (target.text = (Endpoint.inet a).text ↔ a.scope = 0) ∧
      (SocketAddress.parse? target.text = some a ↔ a.scope = 0) ∧
      SocketAddress.parse? (Endpoint.inet a).text = some a ∧
      (∀ b : Server.Blueprint, b.address.unixPath = none →
        (b.bindAddress a).address.target = .ok target) ∧
      ∀ b : Client.Blueprint, b.remote.unixPath = none →
        (b.remoteAddress a).remote.target = .ok target ∧
        (b.remoteAddress a).target =
          if a.port = 0 then .error (.configuration "remote port is required") else .ok target := by
  intro target
  have written : target.text = (SocketAddress.ofIp a.ip a.port).text := Target.text_ofEndpoint a
  have read : SocketAddress.parse? target.text = some (.ofIp a.ip a.port) := by
    rw [written, SocketAddress.parse?_text]
  refine ⟨written, read, ?_, ?_, a.parse?_text, fun b inet => ?_, fun b inet => ⟨?_, ?_⟩⟩
  · rw [written, ← a.ofIp_eq_iff]
    exact SocketAddress.text_injective.eq_iff
  · rw [read, ← a.ofIp_eq_iff, Option.some.injEq]
  · exact Options.target_withSocketAddress inet a
  · exact Options.target_withSocketAddress inet a
  · have meant : (b.remoteAddress a).remote.target = .ok target :=
      Options.target_withSocketAddress inet a
    unfold Client.Blueprint.target
    rw [meant]
    rfl

/-- A link-local address that is reached over the third interface. -/
def linkLocal : SocketAddress := .v6 ⟨#v[0xfe80, 0, 0, 0, 0, 0, 0, 1]⟩ 80 3

theorem linkLocal_targets :
    SocketAddress.parse? (Target.ofEndpoint (.inet linkLocal)).text =
        some (.v6 ⟨#v[0xfe80, 0, 0, 0, 0, 0, 0, 1]⟩ 80 0) ∧
      (({} : Server.Blueprint).bindAddress linkLocal).address.target =
        .ok (Target.ofEndpoint (.inet linkLocal)) ∧
      (({} : Client.Blueprint).remoteAddress linkLocal).target =
        .ok (Target.ofEndpoint (.inet linkLocal)) := by
  obtain ⟨-, read, -, -, -, server, client⟩ := target_names_unscoped_endpoint linkLocal
  exact ⟨read, server {} rfl, (client {} rfl).2⟩

theorem scope_gets_lost :
    (Endpoint.inet linkLocal).text = "[fe80::1%3]:80" ∧
      (Target.ofEndpoint (.inet linkLocal)).text = "[fe80::1]:80" ∧
      SocketAddress.parse? (Target.ofEndpoint (.inet linkLocal)).text ≠ some linkLocal := by
  decide

end StreamHost.Address
