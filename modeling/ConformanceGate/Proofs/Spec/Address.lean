import ConformanceGate.Proofs.Spec.Authority
import ConformanceGate.Spec.Basic

/-!
# Addresses of this machine

The url of a port of this machine names an address that is found again
(`Spec.socketAddress_localUrl`), so the usual specs can be used.
-/

namespace ConformanceGate

namespace Spec

/-- The address of a port of this machine is found in its url. -/
theorem socketAddress_localUrl (port : UInt16) :
    socketAddress (localUrl port) = .ok ("127.0.0.1:" ++ port.toNat.repr) := by
  have read : Text.port? (Nat.toDigits 10 port.toNat) = some port := by
    rw [Text.port?_toDigits port.toNat_lt]
    simp
  have address : Addressed "80" ("127.0.0.1".toList ++ ':' :: Nat.toDigits 10 port.toNat)
      ("127.0.0.1:" ++ port.toNat.repr).toList := by
    simpa using Addressed.hostPort "27.0.0.1".toList _ (by decide : '1' ≠ '[') read
  have url : (localUrl port).toList =
      "ws://".toList ++ ("127.0.0.1".toList ++ ':' :: Nat.toDigits 10 port.toNat ++ []) := by
    simp [localUrl]
  have host : ∀ c ∈ "127.0.0.1".toList, ¬ endsAuthority c := by simp [endsAuthority]
  exact address.socketAddress (mem_schemes.mpr (.inl ⟨rfl, rfl⟩)) url (inside_append_port host read)
    (by simp [Follows])

end Spec
end ConformanceGate
