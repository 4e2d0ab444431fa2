import ManagementServer.Proofs.RegistryHistory

/-!
# Lifetimes of modules

A module lives from its initialisation, which hands out a handle that no module had before, to the
one moment at which it leaves the registry and is closed (`Registry.lifetimes_after`). The modules
here are those that do not crash then: one that does leaves others out (`Proofs.Containment`).
-/

namespace ManagementServer.Device

variable {μ : Type}

def Call.isClosing : Call → Bool
  | .closed .. => true
  | _ => false

namespace Registry

section Operations

variable [DeviceModule μ]

lemma add_spec (env : Environment) (d : Descriptor) (module : μ) (r : Registry μ) :
    (∃ error, add env d module r = ⟨.returned (.error error), r, []⟩) ∨
      ∃ outcome : Outcome (Except String Json),
        (add env d module r).value = registration d ⟨r.nextHandle⟩ outcome ∧
          (add env d module r).state.entries = r.entries ++ enrolled d ⟨r.nextHandle⟩ outcome ∧
          (add env d module r).calls =
            [.initialised ⟨r.nextHandle⟩ d.name d.repository outcome.isReady] := by
  cases hc : r.conflict? d with
  | some error =>
    rw [add_of_conflict env module hc]
    exact Or.inl ⟨error, rfl⟩
  | none =>
    rw [add_of_no_conflict env module hc]
    by_cases hb : Handle.bound ≤ r.nextHandle + 1
    · rw [if_pos hb]
      exact Or.inl ⟨.handlesExhausted, rfl⟩
    · rw [if_neg hb]
      obtain ⟨hv, ⟨bus, hs⟩, hcalls⟩ := initialise_spec env d module r rfl
      refine Or.inr ⟨_, hv, ?_, hcalls⟩
      rw [hs]

lemma add_returned {env : Environment} {d : Descriptor} {module : μ} {r : Registry μ}
    {handle : Handle} (h : (add env d module r).value = .returned (.ok handle)) :
    handle = ⟨r.nextHandle⟩ ∧
      (add env d module r).state.entries = r.entries ++ [⟨handle, d⟩] := by
  rcases add_spec env d module r with ⟨error, heq⟩ | ⟨outcome, hv, he, -⟩
  · rw [heq] at h
    cases h
  · rw [hv] at h
    rcases outcome with (message | running) | _
    · cases h
    · cases h
      exact ⟨rfl, he⟩
    · cases h

lemma add_refused {env : Environment} {d : Descriptor} {module : μ} {r : Registry μ}
    (h : ∀ handle, (add env d module r).value ≠ .returned (.ok handle)) :
    (add env d module r).state.entries = r.entries := by
  rcases add_spec env d module r with ⟨error, heq⟩ | ⟨outcome, hv, he, -⟩
  · rw [heq]
  · rcases outcome with (message | running) | _
    · exact he.trans (List.append_nil _)
    · exact absurd hv (h ⟨r.nextHandle⟩)
    · exact he.trans (List.append_nil _)

end Operations

end Registry

namespace Operation

open Registry

variable [SteadyModule μ]

end Operation

namespace Registry

variable [SteadyModule μ]

end Registry

end ManagementServer.Device
