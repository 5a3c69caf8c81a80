import ShaderGraph.Proofs.Construction.Requests

namespace ShaderGraph

/-- A builder and the nodes it has given out, in order. -/
structure Session where
  builder : Builder := {}
  given : List NodeRef := []

/-- Carries out a request about nodes that were given out; there is no answer to any other. -/
def Session.request (s : Session) (call : Call) : Option Session :=
  if ∀ node ∈ call.uses, node ∈ s.given then
    match call.run s.builder with
    | .ok (returned, b) => some ⟨b, s.given ++ returned.toList⟩
    | .error _ => none
  else none

namespace Session

/-- The builder shares what there is, and the library is made of what was given out. -/
structure Sound (s : Session) : Prop where
  interned : s.builder.Interned
  library : s.builder.library.Sound s.given

theorem Sound.start : Sound {} where
  interned := .start
  library := by
    refine ⟨by simp, ?_, ?_, ?_, ?_, ?_⟩ <;> intro id content found <;> cases found

theorem Sound.request {s s' : Session} {call : Call} (sound : s.Sound) (done : s.request call = some s') :
    s'.Sound := by
  unfold Session.request at done
  split at done
  · next uses =>
    split at done
    · next returned b run =>
      cases done
      obtain ⟨interned, changes, held⟩ := call.run_changes sound.interned run
      have still := changes.kept (fun _ _ change => change.sound uses) sound.library
      exact ⟨interned, still.give (by simpa using held)⟩
    · cases done
  · cases done

/-- However a library is built, all that is in it is sound. -/
theorem Sound.requests {calls : List Call} {s s' : Session} (sound : s.Sound)
    (built : calls.foldlM Session.request s = some s') : s'.Sound := by
  induction calls generalizing s with
  | nil =>
    cases built
    exact sound
  | cons call others ih =>
    rw [List.foldlM_cons] at built
    obtain ⟨next, done, built⟩ := Option.bind_eq_some_iff.mp built
    exact ih (sound.request done) built

end Session

end ShaderGraph
