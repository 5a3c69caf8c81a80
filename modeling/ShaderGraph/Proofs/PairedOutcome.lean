import ShaderGraph.Proofs.Outcome

namespace ShaderGraph

/-- Two computations end with related results or fail alike, unless one of them stops for a reason that it
may have on its own. -/
inductive Outcome.Agree {ε α β : Type} (R : α → β → Prop) (Stops Stops' : ε → Prop) :
    Except ε α → Except ε β → Prop
  | ends {a b} : R a b → Agree R Stops Stops' (.ok a) (.ok b)
  | fails (cause) : Agree R Stops Stops' (.error cause) (.error cause)
  | firstStops {cause y} : Stops cause → Agree R Stops Stops' (.error cause) y
  | secondStops {cause x} : Stops' cause → Agree R Stops Stops' x (.error cause)

namespace Outcome

variable {ε α β γ : Type} {Stops Stops' : ε → Prop}

theorem mapError_eq_ok_iff {ε' : Type} {x : Except ε α} {f : ε → ε'} {value : α} :
    x.mapError f = .ok value ↔ x = .ok value := by
  cases x <;> simp [Except.mapError]

theorem Agree.mono {R R' : α → β → Prop} {Stops'' Stops''' : ε → Prop} {x : Except ε α} {y : Except ε β}
    (agree : Agree R Stops Stops' x y) (related : ∀ a b, x = .ok a → y = .ok b → R a b → R' a b)
    (first : ∀ cause, Stops cause → Stops'' cause) (second : ∀ cause, Stops' cause → Stops''' cause) :
    Agree R' Stops'' Stops''' x y := by
  cases agree with
  | ends both => exact .ends (related _ _ rfl rfl both)
  | fails cause => exact .fails cause
  | firstStops stops => exact .firstStops (first _ stops)
  | secondStops stops => exact .secondStops (second _ stops)

theorem Agree.of_ok {R : α → β → Prop} {a : α} {b : β} (agree : Agree R Stops Stops' (.ok a) (.ok b)) : R a b := by
  cases agree with
  | ends both => exact both

theorem Agree.refl (x : Except ε α) : Agree (· = ·) Stops Stops' x x := by
  cases x with
  | ok value => exact .ends rfl
  | error cause => exact .fails cause

theorem Agree.bind {δ : Type} {R : α → β → Prop} {R' : γ → δ → Prop} {x : Except ε α} {y : Except ε β}
    {f : α → Except ε γ} {g : β → Except ε δ} (agree : Agree R Stops Stops' x y)
    (others : ∀ a b, x = .ok a → y = .ok b → R a b → Agree R' Stops Stops' (f a) (g b)) :
    Agree R' Stops Stops' (x >>= f) (y >>= g) := by
  cases agree with
  | ends both => exact others _ _ rfl rfl both
  | fails cause => exact .fails cause
  | firstStops stops => exact .firstStops stops
  | secondStops stops => exact .secondStops stops

/-- Where nothing but the results can differ, what is made of them alike is equal. -/
theorem Agree.map_eq {R : α → β → Prop} {f : α → γ} {g : β → γ} {x : Except ε α} {y : Except ε β}
    (agree : Agree R (fun _ => False) (fun _ => False) x y) (same : ∀ a b, R a b → f a = g b) :
    f <$> x = g <$> y := by
  cases agree with
  | ends both => exact congrArg Except.ok (same _ _ both)
  | fails cause => rfl
  | firstStops never => exact never.elim
  | secondStops never => exact never.elim

theorem Agree.lift {R : α → β → Prop} {Stops Stops' : Abort → Prop} {x : Except Abort α} {y : Except Abort β}
    (agree : Agree R Stops Stops' x y) :
    Agree R (fun stop => ∃ cause, stop = .abort cause ∧ Stops cause)
      (fun stop => ∃ cause, stop = .abort cause ∧ Stops' cause) (liftM x : Attempt ε α) (liftM y : Attempt ε β) := by
  cases agree with
  | ends both => exact .ends both
  | fails cause => exact .fails (Stop.abort cause)
  | firstStops stops => exact .firstStops ⟨_, rfl, stops⟩
  | secondStops stops => exact .secondStops ⟨_, rfl, stops⟩

/-- Errors are kept as answers, and those do not stop a computation. -/
theorem Agree.settle {R : α → β → Prop} {Stops Stops' : Abort → Prop} {x : Attempt ε α} {y : Attempt ε β}
    (agree : Agree R (fun stop => ∃ cause, stop = .abort cause ∧ Stops cause)
      (fun stop => ∃ cause, stop = .abort cause ∧ Stops' cause) x y) :
    Agree (Agree R (fun _ => False) fun _ => False) Stops Stops' x.settle y.settle := by
  cases agree with
  | ends both => exact .ends (.ends both)
  | fails stop =>
    cases stop with
    | abort cause => exact .fails cause
    | error error => exact .ends (.fails error)
  | firstStops stops =>
    obtain ⟨cause, rfl, stops⟩ := stops
    exact .firstStops stops
  | secondStops stops =>
    obtain ⟨cause, rfl, stops⟩ := stops
    exact .secondStops stops

theorem Agree.map {δ : Type} {R : α → β → Prop} {R' : γ → δ → Prop} {f : α → γ} {g : β → δ} {x : Except ε α}
    {y : Except ε β} (agree : Agree R Stops Stops' x y) (related : ∀ a b, R a b → R' (f a) (g b)) :
    Agree R' Stops Stops' (f <$> x) (g <$> y) := by
  cases agree with
  | ends both => exact .ends (related _ _ both)
  | fails cause => exact .fails cause
  | firstStops stops => exact .firstStops stops
  | secondStops stops => exact .secondStops stops

theorem filterMapM_agree {R : β → γ → Prop} {f : α → Except ε (Option β)} {g : α → Except ε (Option γ)}
    {xs : List α} (each : ∀ x ∈ xs, Agree (Option.Rel R) Stops Stops' (f x) (g x)) :
    Agree (List.Forall₂ R) Stops Stops' (xs.filterMapM f) (xs.filterMapM g) := by
  induction xs with
  | nil => exact .ends .nil
  | cons x rest ih =>
    rw [List.forall_mem_cons] at each
    rw [List.filterMapM_cons, List.filterMapM_cons]
    generalize f x = here, g x = there at each
    cases each.1 with
    | fails cause => exact .fails cause
    | firstStops stops => exact .firstStops stops
    | secondStops stops => exact .secondStops stops
    | ends both =>
      cases both with
      | none => exact ih each.2
      | some related => exact (ih each.2).map fun _ _ others => .cons related others

end Outcome

end ShaderGraph
