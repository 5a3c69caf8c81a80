import Mathlib.Data.List.Forall2
import ShaderGraph.Abort

namespace ShaderGraph.Outcome

variable {ε α β : Type}

theorem bind_eq_ok_iff {x : Except ε α} {f : α → Except ε β} {result : β} :
    (x >>= f) = .ok result ↔ ∃ value, x = .ok value ∧ f value = .ok result := by
  cases x <;> simp [bind, Except.bind]

theorem bind_eq_error_iff {x : Except ε α} {f : α → Except ε β} {cause : ε} :
    (x >>= f) = .error cause ↔ x = .error cause ∨ ∃ value, x = .ok value ∧ f value = .error cause := by
  cases x <;> simp [bind, Except.bind]

theorem bind_congr_ok {x : Except ε α} {f g : α → Except ε β} (same : ∀ value, x = .ok value → f value = g value) :
    x >>= f = x >>= g := by
  cases x with
  | error => rfl
  | ok value => exact same value rfl

theorem map_eq_ok_iff {x : Except ε α} {f : α → β} {result : β} :
    (f <$> x) = .ok result ↔ ∃ value, x = .ok value ∧ f value = result := by
  cases x <;> simp [Functor.map, Except.map]

theorem pure_eq_ok_iff {value result : α} :
    (pure value : Except ε α) = .ok result ↔ value = result := by
  simp [pure, Except.pure]

/-- A computation that can only be given up keeps its result where there are errors too. -/
theorem lift_eq_ok_iff {x : Except Abort α} {result : α} :
    (liftM x : Attempt ε α) = .ok result ↔ x = .ok result := by
  cases x <;> simp [liftM, monadLift, MonadLift.monadLift, Except.mapError]

theorem lift_bind_of_ok {x : Except Abort α} {value : α} (found : x = .ok value) (f : α → Attempt ε β) :
    ((liftM x : Attempt ε α) >>= f) = f value := by
  rw [found]
  rfl

theorem lift_bind_of_error {x : Except Abort α} {cause : Abort} (failed : x = .error cause) (f : α → Attempt ε β) :
    ((liftM x : Attempt ε α) >>= f) = .error (.abort cause) := by
  rw [failed]
  rfl

theorem mapM_eq_ok_iff {f : α → Except ε β} {xs : List α} {ys : List β} :
    xs.mapM f = .ok ys ↔ List.Forall₂ (fun x y => f x = .ok y) xs ys := by
  induction xs generalizing ys with
  | nil => rw [List.mapM_nil, pure_eq_ok_iff, List.forall₂_nil_left_iff, eq_comm]
  | cons x rest ih =>
    simp only [List.mapM_cons, bind_eq_ok_iff, pure_eq_ok_iff, ih, List.forall₂_cons_left_iff]
    constructor
    · rintro ⟨y, first, others, tail, rfl⟩
      exact ⟨y, others, first, tail, rfl⟩
    · rintro ⟨y, others, first, tail, rfl⟩
      exact ⟨y, first, others, tail, rfl⟩

theorem mapM_eq_map_mapM {γ : Type} {f : α → Except ε β} {h : α → Except ε γ} {g : β → γ}
    (same : ∀ x, g <$> f x = h x) (xs : List α) : xs.mapM h = List.map g <$> xs.mapM f := by
  induction xs with
  | nil => rfl
  | cons x rest ih => simp [List.mapM_cons, ← same, ih]

theorem mapM_congr {f g : α → Except ε β} {xs : List α} (same : ∀ x ∈ xs, f x = g x) : xs.mapM f = xs.mapM g := by
  induction xs with
  | nil => rfl
  | cons x rest ih =>
    rw [List.forall_mem_cons] at same
    rw [List.mapM_cons, List.mapM_cons, same.1, ih same.2]

theorem filterMapM_congr {f g : α → Except ε (Option β)} {xs : List α} (same : ∀ x ∈ xs, f x = g x) :
    xs.filterMapM f = xs.filterMapM g := by
  induction xs with
  | nil => rfl
  | cons x rest ih =>
    rw [List.forall_mem_cons] at same
    rw [List.filterMapM_cons, List.filterMapM_cons, same.1, ih same.2]

theorem filterAuxM_congr {p q : α → Except ε Bool} {xs : List α} (same : ∀ x ∈ xs, p x = q x) (kept : List α) :
    List.filterAuxM p xs kept = List.filterAuxM q xs kept := by
  induction xs generalizing kept with
  | nil => rfl
  | cons x rest ih =>
    rw [List.forall_mem_cons] at same
    simp only [List.filterAuxM, same.1, ih same.2]

theorem filterM_congr {p q : α → Except ε Bool} {xs : List α} (same : ∀ x ∈ xs, p x = q x) :
    xs.filterM p = xs.filterM q := by
  simp only [List.filterM, filterAuxM_congr same]

theorem exists_of_forall₂ {R : α → β → Prop} {xs : List α} {ys : List β} {y : β} (pairs : List.Forall₂ R xs ys)
    (member : y ∈ ys) : ∃ x ∈ xs, R x y := by
  induction pairs with
  | nil => cases member
  | @cons x y xs ys first _ ih =>
    rcases List.mem_cons.mp member with rfl | later
    · exact ⟨x, List.mem_cons_self .., first⟩
    · obtain ⟨other, inside, related⟩ := ih later
      exact ⟨other, List.mem_cons_of_mem _ inside, related⟩

theorem exists_of_mapM {f : α → Except ε β} {xs : List α} {ys : List β} {y : β} (found : xs.mapM f = .ok ys)
    (member : y ∈ ys) : ∃ x ∈ xs, f x = .ok y :=
  exists_of_forall₂ (R := fun x y => f x = .ok y) (mapM_eq_ok_iff.mp found) member

theorem exists_result_of_mapM {f : α → Except ε β} {xs : List α} {ys : List β} {x : α} (found : xs.mapM f = .ok ys)
    (member : x ∈ xs) : ∃ y ∈ ys, f x = .ok y :=
  exists_of_forall₂ (R := fun y x => f x = .ok y) (mapM_eq_ok_iff.mp found).flip member

/-- A pass over a list fails where one of its steps does. -/
theorem exists_of_mapM_eq_error {f : α → Except ε β} {xs : List α} {cause : ε} (failed : xs.mapM f = .error cause) :
    ∃ x ∈ xs, f x = .error cause := by
  induction xs with
  | nil => cases failed
  | cons x rest ih =>
    rw [List.mapM_cons] at failed
    rcases bind_eq_error_iff.mp failed with first | ⟨y, _, failed⟩
    · exact ⟨x, List.mem_cons_self .., first⟩
    · rcases bind_eq_error_iff.mp failed with later | ⟨_, _, ⟨⟩⟩
      obtain ⟨other, inside, stopped⟩ := ih later
      exact ⟨other, List.mem_cons_of_mem _ inside, stopped⟩

theorem exists_mapM_iff {f : α → Except ε β} {xs : List α} :
    (∃ ys, xs.mapM f = .ok ys) ↔ ∀ x ∈ xs, ∃ y, f x = .ok y := by
  constructor
  · rintro ⟨ys, found⟩ x member
    exact (exists_result_of_mapM found member).imp fun _ => And.right
  · intro each
    cases found : xs.mapM f with
    | ok ys => exact ⟨ys, rfl⟩
    | error cause =>
      obtain ⟨x, member, failed⟩ := exists_of_mapM_eq_error found
      obtain ⟨y, made⟩ := each x member
      cases made.symm.trans failed

/-- Passes over parts of each element make up one pass. -/
theorem flatten_mapM {γ : Type} {f : α → Except ε (List γ)} {g : α → List β} {h : β → Except ε γ} {xs : List α}
    (each : ∀ x ∈ xs, f x = (g x).mapM h) : List.flatten <$> xs.mapM f = (xs.flatMap g).mapM h := by
  induction xs with
  | nil => rfl
  | cons x rest ih =>
    rw [List.forall_mem_cons] at each
    rw [List.flatMap_cons, List.mapM_append, ← each.1, ← ih each.2, List.mapM_cons]
    simp only [map_bind, map_pure, bind_map_left, List.flatten_cons]

/-- Two passes over one list have results that correspond. -/
theorem forall₂_of_mapM {ε' γ : Type} {f : α → Except ε β} {g : α → Except ε' γ} {R : β → γ → Prop} {xs : List α}
    {ys : List β} {zs : List γ} (first : xs.mapM f = .ok ys) (second : xs.mapM g = .ok zs)
    (each : ∀ x ∈ xs, ∀ y z, f x = .ok y → g x = .ok z → R y z) : List.Forall₂ R ys zs := by
  have pairs := mapM_eq_ok_iff.mp first
  clear first
  induction pairs generalizing zs with
  | nil =>
    cases pure_eq_ok_iff.mp second
    exact .nil
  | @cons x y xs ys made _ ih =>
    rw [List.forall_mem_cons] at each
    rw [List.mapM_cons] at second
    obtain ⟨z, other, second⟩ := bind_eq_ok_iff.mp second
    obtain ⟨others, later, second⟩ := bind_eq_ok_iff.mp second
    cases pure_eq_ok_iff.mp second
    exact .cons (each.1 y z made other) (ih later each.2)

/-- What is picked from the results can be told from what they were made of. -/
theorem filterMap_of_mapM {γ : Type} {f : α → Except ε β} {g : β → Option γ} {pick : α → Option γ} {xs : List α}
    {ys : List β} (found : xs.mapM f = .ok ys) (each : ∀ x ∈ xs, ∀ y, f x = .ok y → g y = pick x) :
    ys.filterMap g = xs.filterMap pick := by
  have pairs := mapM_eq_ok_iff.mp found
  clear found
  induction pairs with
  | nil => rfl
  | @cons x y xs ys first _ ih =>
    have rest := ih fun other inside => each other (List.mem_cons_of_mem _ inside)
    rw [List.filterMap_cons, List.filterMap_cons, each x (List.mem_cons_self ..) y first, rest]

theorem filterMap_flatten_of_mapM {γ : Type} {f : α → Except ε (List β)} {g : β → Option γ} {pick : α → List γ}
    {xs : List α} {yss : List (List β)} (found : xs.mapM f = .ok yss)
    (each : ∀ x ∈ xs, ∀ ys, f x = .ok ys → ys.filterMap g = pick x) :
    yss.flatten.filterMap g = xs.flatMap pick := by
  have pairs := mapM_eq_ok_iff.mp found
  clear found
  induction pairs with
  | nil => rfl
  | @cons x ys xs yss first _ ih =>
    have rest := ih fun other inside => each other (List.mem_cons_of_mem _ inside)
    rw [List.flatten_cons, List.filterMap_append, List.flatMap_cons, each x (List.mem_cons_self ..) ys first,
      rest]

/-- What a pass that leaves things out makes comes from some of the elements, in order. -/
theorem exists_sublist_of_filterMapM {f : α → Except ε (Option β)} {xs : List α} {ys : List β}
    (found : xs.filterMapM f = .ok ys) :
    ∃ kept, kept.Sublist xs ∧ List.Forall₂ (fun x y => f x = .ok (some y)) kept ys := by
  induction xs generalizing ys with
  | nil =>
    cases found
    exact ⟨[], .slnil, .nil⟩
  | cons x rest ih =>
    rw [List.filterMapM_cons] at found
    obtain ⟨answer, first, found⟩ := bind_eq_ok_iff.mp found
    cases answer with
    | none =>
      obtain ⟨kept, inside, pairs⟩ := ih found
      exact ⟨kept, inside.cons x, pairs⟩
    | some y =>
      obtain ⟨others, later, found⟩ := bind_eq_ok_iff.mp found
      cases pure_eq_ok_iff.mp found
      obtain ⟨kept, inside, pairs⟩ := ih later
      exact ⟨x :: kept, inside.cons_cons x, .cons first pairs⟩

theorem exists_of_filterMapM {f : α → Except ε (Option β)} {xs : List α} {ys : List β} {y : β}
    (found : xs.filterMapM f = .ok ys) (member : y ∈ ys) : ∃ x ∈ xs, f x = .ok (some y) := by
  obtain ⟨kept, inside, pairs⟩ := exists_sublist_of_filterMapM found
  obtain ⟨x, listed, made⟩ := exists_of_forall₂ pairs member
  exact ⟨x, inside.subset listed, made⟩

theorem exists_result_of_filterMapM {f : α → Except ε (Option β)} {xs : List α} {ys : List β} {x : α}
    (found : xs.filterMapM f = .ok ys) (member : x ∈ xs) : ∃ answer, f x = .ok answer ∧ ∀ y ∈ answer, y ∈ ys := by
  induction xs generalizing ys with
  | nil => cases member
  | cons other rest ih =>
    rw [List.filterMapM_cons] at found
    obtain ⟨answer, first, found⟩ := bind_eq_ok_iff.mp found
    cases answer with
    | none =>
      rcases List.mem_cons.mp member with rfl | later
      · exact ⟨none, first, by simp⟩
      · exact ih found later
    | some z =>
      obtain ⟨others, tail, found⟩ := bind_eq_ok_iff.mp found
      cases pure_eq_ok_iff.mp found
      rcases List.mem_cons.mp member with rfl | later
      · exact ⟨some z, first, by simp⟩
      · obtain ⟨answer, made, inside⟩ := ih tail later
        exact ⟨answer, made, fun y mem => List.mem_cons_of_mem _ (inside y mem)⟩

theorem forall₂_of_filterMapM {ε' γ : Type} {f : α → Except ε (Option β)} {g : α → Except ε' (Option γ)}
    {R : β → γ → Prop} {xs : List α} {ys : List β} {zs : List γ} (first : xs.filterMapM f = .ok ys)
    (second : xs.filterMapM g = .ok zs)
    (each : ∀ x ∈ xs, ∀ y z, f x = .ok y → g x = .ok z → Option.Rel R y z) : List.Forall₂ R ys zs := by
  induction xs generalizing ys zs with
  | nil =>
    cases pure_eq_ok_iff.mp first
    cases pure_eq_ok_iff.mp second
    exact .nil
  | cons x rest ih =>
    rw [List.forall_mem_cons] at each
    rw [List.filterMapM_cons] at first second
    obtain ⟨y, made, first⟩ := bind_eq_ok_iff.mp first
    obtain ⟨z, other, second⟩ := bind_eq_ok_iff.mp second
    have related := each.1 y z made other
    cases related with
    | none => exact ih first second each.2
    | some related =>
      obtain ⟨ys, firstRest, first⟩ := bind_eq_ok_iff.mp first
      obtain ⟨zs, secondRest, second⟩ := bind_eq_ok_iff.mp second
      cases pure_eq_ok_iff.mp first
      cases pure_eq_ok_iff.mp second
      exact .cons related (ih firstRest secondRest each.2)

/-- A pass that leaves things out ends with results, or for the reason that one of its steps ends. -/
theorem filterMapM_cases {f : α → Except ε (Option β)} {Stops : ε → Prop} {xs : List α}
    (each : ∀ x ∈ xs, (∃ y, f x = .ok y) ∨ ∃ cause, f x = .error cause ∧ Stops cause) :
    (∃ ys, xs.filterMapM f = .ok ys) ∨ ∃ cause, xs.filterMapM f = .error cause ∧ Stops cause := by
  induction xs with
  | nil => exact .inl ⟨[], rfl⟩
  | cons x rest ih =>
    rw [List.forall_mem_cons] at each
    rw [List.filterMapM_cons]
    rcases each.1 with ⟨answer, made⟩ | ⟨cause, failed, stops⟩
    · rw [made]
      rcases ih each.2 with ⟨ys, later⟩ | ⟨cause, later, stops⟩
      · cases answer with
        | none => exact .inl ⟨ys, later⟩
        | some y => exact .inl ⟨y :: ys, by rw [later]; rfl⟩
      · cases answer with
        | none => exact .inr ⟨cause, later, stops⟩
        | some y => exact .inr ⟨cause, by rw [later]; rfl, stops⟩
    · rw [failed]
      exact .inr ⟨cause, rfl, stops⟩

/-- What each element contributes is put together in order. -/
theorem filterMapM_eq_flatten (f : α → Except ε (Option β)) (xs : List α) :
    xs.filterMapM f = List.flatten <$> xs.mapM fun x => Option.toList <$> f x := by
  induction xs with
  | nil => rfl
  | cons x rest ih =>
    rw [List.filterMapM_cons, List.mapM_cons, ih]
    cases f x with
    | error cause => rfl
    | ok answer =>
      cases rest.mapM fun x => Option.toList <$> f x with
      | error cause => cases answer <;> rfl
      | ok parts => cases answer <;> rfl

theorem filterMapM_eq_reduceOption (f : α → Except ε (Option β)) (xs : List α) :
    xs.filterMapM f = List.reduceOption <$> xs.mapM f := by
  have joined (found : List (Option β)) : (found.map Option.toList).flatten = found.reduceOption :=
    (List.filterMap_eq_flatMap_toList id found).symm
  rw [filterMapM_eq_flatten, mapM_eq_map_mapM (f := f) fun _ => rfl, Functor.map_map]
  simp only [joined]

theorem filterMapM_eq_mapM {γ : Type} {f : α → Except ε (Option γ)} {g : α → Option β} {h : β → Except ε γ}
    {xs : List α} (each : ∀ x ∈ xs, f x = (g x).mapM h) : xs.filterMapM f = (xs.filterMap g).mapM h := by
  rw [filterMapM_eq_flatten, List.filterMap_eq_flatMap_toList]
  refine flatten_mapM fun x member => ?_
  rw [each x member]
  cases g x with
  | none => rfl
  | some y => simp

/-- Choosing among the elements chooses among the results, where these tell which elements they are from. -/
theorem filterMapM_filter {f : α → Except ε (Option β)} {p : α → Bool} {q : β → Bool} {xs : List α} {ys : List β}
    (found : xs.filterMapM f = .ok ys) (agree : ∀ x ∈ xs, ∀ y, f x = .ok (some y) → q y = p x) :
    (xs.filter p).filterMapM f = .ok (ys.filter q) := by
  induction xs generalizing ys with
  | nil =>
    cases found
    rfl
  | cons x rest ih =>
    rw [List.forall_mem_cons] at agree
    rw [List.filterMapM_cons] at found
    obtain ⟨answer, made, found⟩ := bind_eq_ok_iff.mp found
    cases answer with
    | none =>
      cases chosen : p x with
      | false => rw [List.filter_cons_of_neg (by simp [chosen]), ih found agree.2]
      | true => rw [List.filter_cons_of_pos chosen, List.filterMapM_cons, made]; exact ih found agree.2
    | some y =>
      obtain ⟨others, later, found⟩ := bind_eq_ok_iff.mp found
      cases pure_eq_ok_iff.mp found
      have same := agree.1 y made
      cases chosen : p x with
      | false =>
        rw [chosen] at same
        rw [List.filter_cons_of_neg (by simp [chosen]), List.filter_cons_of_neg (by simp [same]), ih later agree.2]
      | true =>
        rw [chosen] at same
        rw [List.filter_cons_of_pos chosen, List.filter_cons_of_pos same, List.filterMapM_cons, made, ih later agree.2]
        rfl

theorem filterM_eq_filter {p : α → Except ε Bool} {q : α → Bool} {xs : List α} (each : ∀ x ∈ xs, p x = .ok (q x)) :
    xs.filterM p = .ok (xs.filter q) := by
  have looped (kept : List α) : List.filterAuxM p xs kept = .ok ((xs.filter q).reverse ++ kept) := by
    induction xs generalizing kept with
    | nil => rfl
    | cons x rest ih =>
      rw [List.forall_mem_cons] at each
      rw [List.filterAuxM, each.1]
      refine (ih each.2 _).trans ?_
      cases chosen : q x <;> simp [chosen]
  rw [List.filterM, looped []]
  simp [bind, Except.bind, pure, Except.pure]

end ShaderGraph.Outcome
