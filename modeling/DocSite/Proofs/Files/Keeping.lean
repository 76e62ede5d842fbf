import Mathlib.Order.Defs.Unbundled

/-! Steps that may fail and what they keep of a state. A step that fails leaves the state in
which it failed, so a relation that it keeps holds between the states before and after it
however it ends. Steps that are put together keep what each of them keeps. -/

namespace DocSite

variable {σ ε α β : Type}

theorem run_bind (x : ExceptT ε (StateM σ) α) (f : α → ExceptT ε (StateM σ) β) (s : σ) :
    (x >>= f).run.run s = match x.run.run s with
      | (.ok a, s') => (f a).run.run s'
      | (.error e, s') => (.error e, s') := by
  rw [ExceptT.run_bind, StateT.run_bind]
  show (match x.run.run s with | (r, s') => _) = _
  rcases x.run.run s with ⟨_ | a, s'⟩ <;> rfl

theorem run_get_bind (f : σ → ExceptT ε (StateM σ) β) (s : σ) :
    (get >>= f).run.run s = (f s).run.run s := by
  rw [run_bind]
  rfl

theorem run_tryCatch (x : ExceptT ε (StateM σ) α) (handle : ε → ExceptT ε (StateM σ) α) (s : σ) :
    (tryCatch x handle).run.run s = match x.run.run s with
      | (.ok a, s') => (.ok a, s')
      | (.error e, s') => (handle e).run.run s' := by
  rw [ExceptT.run_tryCatch, StateT.run_bind]
  show (match x.run.run s with | (r, s') => _) = _
  rcases x.run.run s with ⟨_ | a, s'⟩ <;> rfl

/-- A loop of checks passes exactly if each of them does. -/
theorem forM_eq_ok_iff {f : α → Except ε PUnit} {as : List α} :
    as.forM f = .ok ⟨⟩ ↔ ∀ a ∈ as, f a = .ok ⟨⟩ := by
  induction as with
  | nil => exact iff_of_true rfl (by simp)
  | cons a as ih =>
    rw [List.forM_eq_forM, List.forM_cons, List.forall_mem_cons, ← ih]
    cases f a with
    | ok _ => exact (and_iff_right rfl).symm
    | error e => exact iff_of_false (fun h => nomatch h) fun h => nomatch h.1

/-- Whether a step leads from each state to one that stands in a relation to it, whether it
comes to its end or not. -/
def Keeps (R : σ → σ → Prop) (x : ExceptT ε (StateM σ) α) : Prop := ∀ s, R s (x.run.run s).2

namespace Keeps
variable {R : σ → σ → Prop}

theorem modify {f : σ → σ} (h : ∀ s, R s (f s)) :
    Keeps R (modify f : ExceptT ε (StateM σ) PUnit) := h

theorem mono {R' : σ → σ → Prop} {x : ExceptT ε (StateM σ) α} (h : Keeps R x)
    (hImp : ∀ s s', R s s' → R' s s') : Keeps R' x := fun s => hImp s _ (h s)

section Refl
variable [Std.Refl R]

theorem pure (a : α) : Keeps R (Pure.pure a : ExceptT ε (StateM σ) α) := fun s => refl_of R s

theorem throw (e : ε) : Keeps R (throw e : ExceptT ε (StateM σ) α) := fun s => refl_of R s

theorem get : Keeps R (MonadState.get : ExceptT ε (StateM σ) σ) := fun s => refl_of R s

theorem ofExcept (x : Except ε α) :
    Keeps R (MonadExcept.ofExcept x : ExceptT ε (StateM σ) α) := by
  cases x with
  | ok a => exact pure a
  | error e => exact throw e

end Refl

section Trans
variable [IsTrans σ R]

theorem bind {x : ExceptT ε (StateM σ) α} {f : α → ExceptT ε (StateM σ) β} (h : Keeps R x)
    (hNext : ∀ a, Keeps R (f a)) : Keeps R (x >>= f) := by
  intro s
  have hFirst := h s
  rw [run_bind]
  rcases hRun : x.run.run s with ⟨e | a, s'⟩ <;> rw [hRun] at hFirst
  · exact hFirst
  · exact trans_of R hFirst (hNext a s')

theorem tryCatch {x : ExceptT ε (StateM σ) α} {handle : ε → ExceptT ε (StateM σ) α}
    (h : Keeps R x) (hHandle : ∀ e, Keeps R (handle e)) : Keeps R (tryCatch x handle) := by
  intro s
  have hFirst := h s
  rw [run_tryCatch]
  rcases hRun : x.run.run s with ⟨e | a, s'⟩ <;> rw [hRun] at hFirst
  · exact trans_of R hFirst (hHandle e s')
  · exact hFirst

theorem forM [Std.Refl R] {f : α → ExceptT ε (StateM σ) PUnit} (h : ∀ a, Keeps R (f a))
    (as : List α) : Keeps R (as.forM f) := by
  induction as with
  | nil => exact pure _
  | cons a as ih => exact (h a).bind fun _ => ih

theorem foldlM [Std.Refl R] {f : β → α → ExceptT ε (StateM σ) β} (h : ∀ b a, Keeps R (f b a))
    (as : List α) (b : β) : Keeps R (as.foldlM f b) := by
  induction as generalizing b with
  | nil => exact pure _
  | cons a as ih => exact (h b a).bind fun b' => ih b'

end Trans

end Keeps

/-- Whether a step fails in one way only. -/
def Fails (P : ε → Prop) (x : ExceptT ε (StateM σ) α) : Prop :=
  ∀ s e, (x.run.run s).1 = .error e → P e

namespace Fails
variable {P : ε → Prop}

theorem pure (a : α) : Fails P (Pure.pure a : ExceptT ε (StateM σ) α) := fun _ _ h => nomatch h

theorem get : Fails P (MonadState.get : ExceptT ε (StateM σ) σ) := fun _ _ h => nomatch h

theorem throw {e : ε} (h : P e) : Fails P (throw e : ExceptT ε (StateM σ) α) := by
  intro s e' hError
  obtain rfl := Except.error.inj hError
  exact h

theorem bind {x : ExceptT ε (StateM σ) α} {f : α → ExceptT ε (StateM σ) β} (h : Fails P x)
    (hNext : ∀ a, Fails P (f a)) : Fails P (x >>= f) := by
  intro s e hError
  have hFirst := h s
  rw [run_bind] at hError
  rcases hRun : x.run.run s with ⟨e' | a, s'⟩ <;> rw [hRun] at hFirst hError
  · exact Except.error.inj hError ▸ hFirst e' rfl
  · exact hNext a s' e hError

theorem tryCatch {x : ExceptT ε (StateM σ) α} {handle : ε → ExceptT ε (StateM σ) α}
    (h : Fails P x) (hHandle : ∀ e, P e → Fails P (handle e)) : Fails P (tryCatch x handle) := by
  intro s e hError
  have hFirst := h s
  rw [run_tryCatch] at hError
  rcases hRun : x.run.run s with ⟨e' | a, s'⟩ <;> rw [hRun] at hFirst hError
  · exact hHandle e' (hFirst e' rfl) s' e hError
  · cases hError

end Fails

/-- Whether a step does not heed a change of the state: it ends in the same way with it, and
leaves the same state but for the change. -/
def Commutes (g : σ → σ) (x : ExceptT ε (StateM σ) α) : Prop :=
  ∀ s, x.run.run (g s) = ((x.run.run s).1, g (x.run.run s).2)

namespace Commutes
variable {g : σ → σ}

theorem pure (a : α) : Commutes g (Pure.pure a : ExceptT ε (StateM σ) α) := fun _ => rfl

theorem throw (e : ε) : Commutes g (throw e : ExceptT ε (StateM σ) α) := fun _ => rfl

theorem ofExcept (x : Except ε α) :
    Commutes g (MonadExcept.ofExcept x : ExceptT ε (StateM σ) α) := by
  cases x with
  | ok a => exact pure a
  | error e => exact throw e

theorem modify {f : σ → σ} (h : ∀ s, f (g s) = g (f s)) :
    Commutes g (modify f : ExceptT ε (StateM σ) PUnit) := fun s => congrArg (Prod.mk _) (h s)

theorem bind {x : ExceptT ε (StateM σ) α} {f : α → ExceptT ε (StateM σ) β} (h : Commutes g x)
    (hNext : ∀ a, Commutes g (f a)) : Commutes g (x >>= f) := by
  intro s
  rw [run_bind, run_bind, h s]
  rcases x.run.run s with ⟨e | a, s'⟩
  · rfl
  · exact hNext a s'

/-- What is read from the state may not depend on the change. -/
theorem get_bind {f : σ → ExceptT ε (StateM σ) β} (hSame : ∀ s, f (g s) = f s)
    (hNext : ∀ s, Commutes g (f s)) : Commutes g (get >>= f) := by
  intro s
  have hRun := hNext s s
  rw [← hSame s] at hRun
  rw [run_bind, run_bind]
  show (f (g s)).run.run (g s) = (((f s).run.run s).1, g ((f s).run.run s).2)
  rw [hRun, hSame s]

theorem forM {f : α → ExceptT ε (StateM σ) PUnit} (h : ∀ a, Commutes g (f a)) (as : List α) :
    Commutes g (as.forM f) := by
  induction as with
  | nil => exact pure _
  | cons a as ih => exact (h a).bind fun _ => ih

end Commutes

end DocSite
