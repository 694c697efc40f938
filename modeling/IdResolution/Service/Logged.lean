import IdResolution.Service.Basic

/-!
# Services with a log

A service beside which the sizes of its requests are kept.
-/

namespace IdResolution

/-- A service with the sizes of the requests it has received, in order. -/
structure Logged (σ : Type) where
  service : σ
  sizes : List Nat := []

instance {σ : Type} [Service σ] : Service (Logged σ) where
  call operation items logged :=
    let called := Service.call operation items logged.service
    (called.1, ⟨called.2, logged.sizes ++ [items.length]⟩)

/-- Calls may overtake each other, so the order of the sizes says nothing. -/
instance {σ : Type} : Recording (Logged σ) where
  calls logged := logged.sizes.length
  sizes? logged := some (logged.sizes.mergeSort (· ≤ ·))
  requests _ := []

end IdResolution
