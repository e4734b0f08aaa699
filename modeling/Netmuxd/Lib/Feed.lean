/-
A consumer that is fed by a producer.

The producer keeps a log that only grows, and the consumer takes its items in order, one at a
time, while both go on.  So each of the two runs as it does alone, and what has been taken is how
the log begins.
-/
import Netmuxd.Lib.Run

namespace Netmuxd.Lib

structure Fed (σ τ : Type) where
  source : σ
  consumer : τ

inductive FedEvent (α β : Type)
  | produce (a : α)
  | consume (b : β)

namespace Fed

variable {σ τ α β φ : Type} {step : σ → α → σ → Prop} {log : σ → List φ}
  {step' : τ → β → τ → Prop} {taken : τ → List φ} {takes : β → Option φ}

/-- A step of the consumer that takes an item takes the one that is next on the log. -/
inductive Step (step : σ → α → σ → Prop) (log : σ → List φ) (step' : τ → β → τ → Prop)
    (taken : τ → List φ) (takes : β → Option φ) : Fed σ τ → FedEvent α β → Fed σ τ → Prop
  | produce {u u' : σ} {t : τ} {a : α} (h : step u a u') :
      Step step log step' taken takes ⟨u, t⟩ (.produce a) ⟨u', t⟩
  | consume {u : σ} {t t' : τ} {b : β}
      (hnext : ∀ x, takes b = some x → (log u)[(taken t).length]? = some x) (h : step' t b t') :
      Step step log step' taken takes ⟨u, t⟩ (.consume b) ⟨u, t'⟩

theorem snoc_prefix {l l' : List φ} {x : φ} (h : l <+: l') (hx : l'[l.length]? = some x) :
    l ++ [x] <+: l' := by
  obtain ⟨rest, rfl⟩ := h
  rw [List.getElem?_append_right (Nat.le_refl _), Nat.sub_self, ← List.head?_eq_getElem?] at hx
  obtain ⟨rest', hrest⟩ := List.head?_eq_some_iff.mp hx
  rw [hrest]
  exact ⟨rest', by simp⟩

/-- A run of the producer, while the consumer waits. -/
theorem produces {u u' : σ} {t : τ} {tr : List (σ × α × σ)} (hrun : Run step u tr u') :
    ∃ tr', Run (Step step log step' taken takes) ⟨u, t⟩ tr' ⟨u', t⟩ := by
  induction hrun with
  | nil => exact ⟨[], Run.nil⟩
  | snoc _ hs ih =>
      obtain ⟨tr', hrun'⟩ := ih
      exact ⟨_, hrun'.snoc (.produce hs)⟩

/-- A run of the consumer on what is already there. -/
theorem consumes {u : σ} {t t' : τ} {tr : List (τ × β × τ)}
    (htaken : ∀ t b t', step' t b t' → taken t' = taken t ++ (takes b).toList)
    (hrun : Run step' t tr t') (hthere : taken t' <+: log u) :
    ∃ tr', Run (Step step log step' taken takes) ⟨u, t⟩ tr' ⟨u, t'⟩ := by
  induction hrun with
  | nil => exact ⟨[], Run.nil⟩
  | @snoc tr t₁ t₂ b _ hs ih =>
      rw [htaken t₁ b t₂ hs] at hthere
      obtain ⟨tr', hrun'⟩ := ih ((List.prefix_append _ _).trans hthere)
      refine ⟨_, hrun'.snoc (.consume ?_ hs)⟩
      intro x hx
      obtain ⟨rest, hlog⟩ := hthere
      rw [← hlog, hx]
      simp

/-- **Each of the two runs as it does alone,** and what has been taken is how the log begins. -/
theorem runs {u₀ : σ} {t₀ : τ} {tr : List (Fed σ τ × FedEvent α β × Fed σ τ)} {s : Fed σ τ}
    (hstart : taken t₀ = [])
    (hgrow : ∀ tr u a u', Run step u₀ tr u → step u a u' → log u <+: log u')
    (htaken : ∀ t b t', step' t b t' → taken t' = taken t ++ (takes b).toList)
    (hrun : Run (Step step log step' taken takes) ⟨u₀, t₀⟩ tr s) :
    (∃ tr', Run step u₀ tr' s.source) ∧ (∃ tr', Run step' t₀ tr' s.consumer) ∧
      taken s.consumer <+: log s.source := by
  induction hrun with
  | nil =>
      refine ⟨⟨[], Run.nil⟩, ⟨[], Run.nil⟩, ?_⟩
      show taken t₀ <+: log u₀
      rw [hstart]
      exact List.nil_prefix
  | snoc hrun hs ih =>
      obtain ⟨⟨tr₁, hsource⟩, ⟨tr₂, hconsumer⟩, hbegins⟩ := ih
      cases hs with
      | produce h =>
          exact ⟨⟨_, hsource.snoc h⟩, ⟨tr₂, hconsumer⟩, hbegins.trans (hgrow tr₁ _ _ _ hsource h)⟩
      | @consume u t t' b hnext h =>
          refine ⟨⟨tr₁, hsource⟩, ⟨_, hconsumer.snoc h⟩, ?_⟩
          show taken t' <+: log u
          rw [htaken t b t' h]
          cases hb : takes b with
          | none => simpa using hbegins
          | some x => exact snoc_prefix hbegins (hnext x hb)

end Fed

end Netmuxd.Lib
