import ManagementServer.Journal
import Mathlib.Order.Basic

/-!
# What actions do to the state

The result of a composed action out of the results of its parts, and `Action.Keeps`: an action moves
the state along a relation. Where the relation is reflexive and transitive, an action made of parts
that keep to it keeps to it.
-/

namespace ManagementServer.Action

variable {σ τ α β : Type}

@[simp] lemma pure_apply (a : α) (s : σ) : (pure a : Action σ α) s = ⟨a, s, []⟩ := rfl

@[simp] lemma bind_apply (x : Action σ α) (f : α → Action σ β) (s : σ) :
    (x >>= f) s = ⟨(f (x s).value (x s).state).value, (f (x s).value (x s).state).state,
      (x s).journal ++ (f (x s).value (x s).state).journal⟩ := rfl

@[simp] lemma get_apply (s : σ) : (get : Action σ σ) s = ⟨s, s, []⟩ := rfl

@[simp] lemma view_apply (f : σ → α) (s : σ) : view f s = ⟨f s, s, []⟩ := rfl

@[simp] lemma modify_apply (f : σ → σ) (s : σ) : modify f s = ⟨(), f s, []⟩ := rfl

@[simp] lemma emit_apply (o : Occurrence) (s : σ) : emit o s = ⟨(), s, [o]⟩ := rfl

@[simp] lemma log_apply (level : Log.Level) (target : Log.Target) (message : String)
    (fields : List (String × Json)) (s : σ) :
    log level target message fields s = ⟨(), s, [.logged ⟨level, target, message, fields⟩]⟩ := rfl

@[simp] lemma zoom_apply (part : τ → σ) (put : σ → τ → τ) (x : Action σ α) (t : τ) :
    zoom part put x t = ⟨(x (part t)).value, put (x (part t)).state t, (x (part t)).journal⟩ := rfl

lemma ite_apply (c : Prop) [Decidable c] (x y : Action σ α) (s : σ) :
    (if c then x else y) s = if c then x s else y s := by
  by_cases h : c
  · exact (congrFun (if_pos h) s).trans (if_pos h).symm
  · exact (congrFun (if_neg h) s).trans (if_neg h).symm

/-- Whatever the state, the action leads to one that is related to it. -/
def Keeps (R : σ → σ → Prop) (x : Action σ α) : Prop := ∀ s, R s (x s).state

namespace Keeps

variable {R : σ → σ → Prop}

lemma of_still [Std.Refl R] {x : Action σ α} (h : ∀ s, (x s).state = s) : Keeps R x := by
  intro s
  rw [h s]
  exact Std.Refl.refl s

lemma pure [Std.Refl R] (a : α) : Keeps R (Pure.pure a : Action σ α) :=
  of_still fun _ => rfl

lemma get [Std.Refl R] : Keeps R (Action.get : Action σ σ) :=
  of_still fun _ => rfl

lemma view [Std.Refl R] (f : σ → α) : Keeps R (Action.view f) :=
  of_still fun _ => rfl

lemma log [Std.Refl R] (level : Log.Level) (target : Log.Target) (message : String)
    (fields : List (String × Json)) :
    Keeps R (Action.log level target message fields : Action σ Unit) :=
  of_still fun _ => rfl

lemma bind [IsTrans σ R] {x : Action σ α} {f : α → Action σ β} (hx : Keeps R x)
    (hf : ∀ a, Keeps R (f a)) : Keeps R (x >>= f) :=
  fun s => IsTrans.trans _ _ _ (hx s) (hf _ _)

end Keeps

/-- Whatever the state, the value of the action has a property. -/
def Yields (P : α → Prop) (x : Action σ α) : Prop := ∀ s, P (x s).value

namespace Yields

variable {P : β → Prop}

lemma pure {b : β} (h : P b) : Yields P (Pure.pure b : Action σ β) := fun _ => h

lemma bind {x : Action σ α} {f : α → Action σ β} (hf : ∀ a, Yields P (f a)) :
    Yields P (x >>= f) :=
  fun _ => hf _ _

end Yields

end ManagementServer.Action

namespace ManagementServer

variable {σ α β : Type}

/-- The module calls of an action. -/
def Result.calls (r : Result σ α) : List Device.Call := r.journal.filterMap (·.call?)

@[simp] lemma Result.calls_nil (a : α) (s : σ) : calls ⟨a, s, []⟩ = [] := rfl

namespace Action

@[simp] lemma calls_bind (x : Action σ α) (f : α → Action σ β) (s : σ) :
    ((x >>= f) s).calls = (x s).calls ++ (f (x s).value (x s).state).calls :=
  List.filterMap_append

/-- What an action comes to: its value, the state behind it, and the module calls. -/
def gist (x : Action σ α) (s : σ) : α × σ × List Device.Call :=
  ((x s).value, (x s).state, (x s).calls)

lemma gist_eq_iff {x : Action σ α} {s s' : σ} {a : α} {calls : List Device.Call} :
    x.gist s = (a, s', calls) ↔ (x s).value = a ∧ (x s).state = s' ∧ (x s).calls = calls := by
  rw [gist, Prod.mk.injEq, Prod.mk.injEq]

lemma gist_pure (a : α) (s : σ) : (pure a : Action σ α).gist s = (a, s, []) := rfl

lemma gist_bind {x : Action σ α} {f : α → Action σ β} {s s' s'' : σ} {a : α} {b : β}
    {calls calls' : List Device.Call} (hx : x.gist s = (a, s', calls))
    (hf : (f a).gist s' = (b, s'', calls')) : (x >>= f).gist s = (b, s'', calls ++ calls') := by
  obtain ⟨hv, hs, hc⟩ := gist_eq_iff.mp hx
  obtain ⟨hv', hs', hc'⟩ := gist_eq_iff.mp hf
  rw [gist, calls_bind, bind_apply, hv, hs, hc, hv', hs', hc']

/-- Whatever holds of the state and of the module calls so far holds behind the action as well. -/
def Preserves (I : σ → List Device.Call → Prop) (x : Action σ α) : Prop :=
  ∀ s history, I s history → I (x s).state (history ++ (x s).calls)

namespace Preserves

variable {I : σ → List Device.Call → Prop}

lemma of_still {x : Action σ α} (hs : ∀ s, (x s).state = s) (hc : ∀ s, (x s).calls = []) :
    Preserves I x := by
  intro s history h
  rw [hs, hc, List.append_nil]
  exact h

lemma pure (a : α) : Preserves I (Pure.pure a : Action σ α) :=
  of_still (fun _ => rfl) fun _ => rfl

lemma get : Preserves I (Action.get : Action σ σ) :=
  of_still (fun _ => rfl) fun _ => rfl

lemma view (f : σ → α) : Preserves I (Action.view f : Action σ α) :=
  of_still (fun _ => rfl) fun _ => rfl

lemma of_silent {x : Action σ α} (hc : ∀ s, (x s).calls = [])
    (h : ∀ s history, I s history → I (x s).state history) : Preserves I x := by
  intro s history hs
  rw [hc, List.append_nil]
  exact h s history hs

lemma modify {f : σ → σ} (h : ∀ s history, I s history → I (f s) history) :
    Preserves I (Action.modify f) :=
  of_silent (fun _ => rfl) h

lemma emit {o : Occurrence} (h : o.call? = none) : Preserves I (Action.emit o : Action σ Unit) := by
  refine of_still (fun _ => rfl) fun _ => ?_
  simp [Result.calls, h]

lemma log (level : Log.Level) (target : Log.Target) (message : String)
    (fields : List (String × Json)) :
    Preserves I (Action.log level target message fields : Action σ Unit) :=
  emit rfl

lemma bind {x : Action σ α} {f : α → Action σ β} (hx : Preserves I x)
    (hf : ∀ a, Preserves I (f a)) : Preserves I (x >>= f) := by
  intro s history h
  rw [calls_bind, ← List.append_assoc]
  exact hf _ _ _ (hx s history h)

lemma keeps {R : σ → σ → Prop} [Std.Refl R] {x : Action σ α}
    (h : ∀ s₀, Preserves (fun s _ => R s₀ s) x) : Keeps R x :=
  fun s => h s s [] (Std.Refl.refl s)

lemma discard {x : Action σ α} (h : Preserves I x) : Preserves I (Functor.discard x) :=
  bind h fun _ => pure _

end Preserves

end Action

end ManagementServer
