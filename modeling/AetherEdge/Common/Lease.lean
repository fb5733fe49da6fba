import AetherEdge.Common.Basic

/-!
# Shared and exclusive leases

An advisory lock as its holders see it: any number of shared leases, or one exclusive lease.
-/

namespace AetherEdge

/-- Who holds the lock. -/
structure Lease where
  shared : List ℕ
  exclusive : Option ℕ
  exclusion : exclusive = none ∨ shared = []
  deriving DecidableEq

namespace Lease

/-- A lease that nobody holds. -/
def free : Lease := ⟨[], none, .inl rfl⟩

/-- `try_lock_shared`. -/
def acquireShared (lease : Lease) (holder : ℕ) : Lease :=
  if lease.exclusive = none then ⟨holder :: lease.shared, none, .inl rfl⟩ else lease

/-- `try_lock_exclusive`. -/
def acquireExclusive (lease : Lease) (holder : ℕ) : Lease :=
  if lease.exclusive = none ∧ lease.shared = [] then ⟨[], some holder, .inr rfl⟩ else lease

/-- `unlock` of a shared lease. -/
def releaseShared (lease : Lease) (holder : ℕ) : Lease :=
  ⟨lease.shared.erase holder, lease.exclusive,
    lease.exclusion.imp id fun h => by rw [h]; rfl⟩

/-- `unlock` of the exclusive lease. -/
def releaseExclusive (lease : Lease) (holder : ℕ) : Lease :=
  if lease.exclusive = some holder then ⟨lease.shared, none, .inl rfl⟩ else lease

end Lease

end AetherEdge
