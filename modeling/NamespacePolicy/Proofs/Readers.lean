import NamespacePolicy.Proofs.Records

/-!
What readers give.  A reader steps from cursor to cursor and may fail on the way; what is known of
the values of the readers it is made of may be known of its own value too.
-/

namespace NamespacePolicy.Proofs.Readers

/-- Steps that may fail: where two of them together give a value, the first one gave a value to the
second. -/
class Failing (m : Type → Type) [Monad m] : Prop where
  pure_inj {α : Type} {a b : α} (h : (pure a : m α) = pure b) : a = b
  exists_of_bind {α β : Type} {x : m α} {f : α → m β} {b : β} (h : x >>= f = pure b) :
    ∃ a, x = pure a ∧ f a = pure b

instance : Failing Option where
  pure_inj h := Option.some.inj h
  exists_of_bind h := Option.bind_eq_some_iff.mp h

instance {ε : Type} : Failing (Except ε) where
  pure_inj h := Except.ok.inj h
  exists_of_bind h := Records.bind_eq_ok_iff.mp h

variable {m : Type → Type} [Monad m] {σ α β : Type} {P : α → Prop} {Q : β → Prop}

/-- Whatever the reader gives has the property. -/
def Yields (P : α → Prop) (R : StateT σ m α) : Prop := ∀ s a t, R s = pure (a, t) → P a

theorem yields_true (R : StateT σ m α) : Yields (fun _ => True) R := fun _ _ _ _ => trivial

theorem Yields.ite {R S : StateT σ m β} {c : Prop} [Decidable c] (hR : Yields Q R)
    (hS : Yields Q S) : Yields Q (if c then R else S) := by
  split
  · exact hR
  · exact hS

variable [Failing m]

theorem yields_pure {b : β} (h : Q b) : Yields Q (pure b : StateT σ m β) := by
  intro s c t hs
  cases Failing.pure_inj hs
  exact h

theorem Yields.bind {R : StateT σ m α} {f : α → StateT σ m β} (hR : Yields P R)
    (hf : ∀ a, P a → Yields Q (f a)) : Yields Q (R >>= f) := by
  intro s c t h
  obtain ⟨⟨a, u⟩, ha, hc⟩ := Failing.exists_of_bind h
  exact hf a (hR s a u ha) u c t hc

theorem yields_bind {R : StateT σ m α} {f : α → StateT σ m β} (hf : ∀ a, Yields Q (f a)) :
    Yields Q (R >>= f) :=
  (yields_true R).bind fun a _ => hf a

end NamespacePolicy.Proofs.Readers
