import Mathlib.Data.List.Forall2

namespace Rollup

variable {α β ε ε' : Type}

theorem bind_eq_ok {first : Except ε α} {second : α → Except ε β} {b : β} :
    (first >>= second) = .ok b ↔ ∃ a, first = .ok a ∧ second a = .ok b := by
  cases first with
  | error fault => simp [bind, Except.bind]
  | ok a => simp [bind, Except.bind]

theorem bind_eq_error {first : Except ε α} {second : α → Except ε β} {fault : ε} :
    (first >>= second) = .error fault ↔
      first = .error fault ∨ ∃ a, first = .ok a ∧ second a = .error fault := by
  cases first with
  | error fault => simp [bind, Except.bind]
  | ok a => simp [bind, Except.bind]

@[simp] theorem mapError_ok (f : ε → ε') (a : α) : (Except.ok a).mapError f = .ok a := rfl

@[simp] theorem mapError_error (f : ε → ε') (fault : ε) :
    (Except.error fault : Except ε α).mapError f = .error (f fault) := rfl

theorem mapError_eq_ok {step : Except ε α} {f : ε → ε'} {a : α} :
    step.mapError f = .ok a ↔ step = .ok a := by
  cases step with
  | error fault => simp
  | ok b => simp

theorem list_mapM_eq_ok {f : α → Except ε β} {xs : List α} {ys : List β} :
    xs.mapM f = .ok ys ↔ xs.map f = ys.map .ok := by
  induction xs generalizing ys with
  | nil =>
      rw [List.mapM_nil, List.map_nil]
      constructor
      · intro h
        cases h
        rfl
      · intro h
        rw [List.map_eq_nil_iff.1 h.symm]
        rfl
  | cons x xs ih =>
      rw [List.mapM_cons, bind_eq_ok]
      constructor
      · rintro ⟨y, hy, h⟩
        obtain ⟨ys', hys', h⟩ := bind_eq_ok.1 h
        cases h
        rw [List.map_cons, List.map_cons, hy, ih.1 hys']
      · intro h
        cases ys with
        | nil => cases h
        | cons y ys =>
            obtain ⟨hy, hys⟩ := List.cons.inj h
            exact ⟨y, hy, bind_eq_ok.2 ⟨ys, ih.2 hys, rfl⟩⟩

theorem list_mapM_eq_ok_iff_forall₂ {f : α → Except ε β} {xs : List α} {ys : List β} :
    xs.mapM f = .ok ys ↔ List.Forall₂ (fun x y => f x = .ok y) xs ys := by
  rw [list_mapM_eq_ok, ← List.forall₂_eq_eq_eq, List.forall₂_map_left_iff,
    List.forall₂_map_right_iff]

theorem exists_list_mapM_eq_ok {f : α → Except ε β} {xs : List α}
    (h : ∀ x ∈ xs, ∃ y, f x = .ok y) : ∃ ys, xs.mapM f = .ok ys := by
  induction xs with
  | nil => exact ⟨[], rfl⟩
  | cons x xs ih =>
      obtain ⟨y, hy⟩ := h x List.mem_cons_self
      obtain ⟨ys, hys⟩ := ih fun x' hx' => h x' (List.mem_cons_of_mem x hx')
      refine ⟨y :: ys, ?_⟩
      rw [list_mapM_eq_ok] at hys ⊢
      rw [List.map_cons, List.map_cons, hy, hys]

theorem list_mapM_congr {f g : α → Except ε β} {xs : List α} (h : ∀ x ∈ xs, f x = g x) :
    xs.mapM f = xs.mapM g := by
  induction xs with
  | nil => rfl
  | cons x xs ih =>
      rw [List.mapM_cons, List.mapM_cons, h x List.mem_cons_self,
        ih fun x' hx' => h x' (List.mem_cons_of_mem x hx')]

theorem list_mapM_eq_of_forall₂ {γ : Type} {R : α → γ → Prop} {f : α → Except ε β}
    {g : γ → Except ε β} {xs : List α} {zs : List γ} (h : List.Forall₂ R xs zs)
    (hsame : ∀ x z, R x z → f x = g z) : xs.mapM f = zs.mapM g := by
  induction h with
  | nil => rfl
  | cons hxz _ ih => rw [List.mapM_cons, List.mapM_cons, hsame _ _ hxz, ih]

theorem exists_of_list_mapM_eq_ok {f : α → Except ε β} {xs : List α} {ys : List β} {x : α}
    (h : xs.mapM f = .ok ys) (hx : x ∈ xs) : ∃ y ∈ ys, f x = .ok y := by
  have hmem : f x ∈ ys.map .ok := by
    rw [← list_mapM_eq_ok.1 h]
    exact List.mem_map_of_mem hx
  obtain ⟨y, hy, heq⟩ := List.mem_map.1 hmem
  exact ⟨y, hy, heq.symm⟩

theorem list_mapM_map {γ : Type} {f : α → Except ε β} {g : α → Except ε γ} {k : β → γ}
    {xs : List α} {ys : List β} (h : xs.mapM f = .ok ys)
    (hk : ∀ x y, f x = .ok y → g x = .ok (k y)) : xs.mapM g = .ok (ys.map k) := by
  induction xs generalizing ys with
  | nil =>
      cases h
      rfl
  | cons x xs ih =>
      rw [List.mapM_cons] at h ⊢
      obtain ⟨y, hy, h⟩ := bind_eq_ok.1 h
      obtain ⟨ys', hys', h⟩ := bind_eq_ok.1 h
      cases h
      rw [hk x y hy, ih hys']
      rfl

theorem list_mapM_eq_error {f : α → Except ε β} {xs : List α} {fault : ε} :
    xs.mapM f = .error fault ↔
      ∃ i, ∃ hi : i < xs.length, f xs[i] = .error fault ∧
        ∀ j (hj : j < xs.length), j < i → ∃ y, f xs[j] = .ok y := by
  induction xs with
  | nil =>
      rw [List.mapM_nil]
      constructor
      · intro h
        cases h
      · rintro ⟨i, hi, -⟩
        cases hi
  | cons x xs ih =>
      rw [List.mapM_cons]
      constructor
      · intro h
        obtain hx | ⟨y, hy, h⟩ := bind_eq_error.1 h
        · exact ⟨0, Nat.zero_lt_succ _, hx, fun j _ hj => absurd hj (Nat.not_lt_zero j)⟩
        · obtain hxs | ⟨ys, -, h⟩ := bind_eq_error.1 h
          · obtain ⟨i, hi, hfault, hbefore⟩ := ih.1 hxs
            refine ⟨i + 1, Nat.succ_lt_succ hi, hfault, ?_⟩
            rintro (_ | j) hj hji
            · exact ⟨y, hy⟩
            · exact hbefore j (Nat.lt_of_succ_lt_succ hj) (Nat.lt_of_succ_lt_succ hji)
          · cases h
      · rintro ⟨_ | i, hi, hfault, hbefore⟩
        · exact bind_eq_error.2 (.inl hfault)
        · obtain ⟨y, hy⟩ := hbefore 0 (Nat.zero_lt_succ _) (Nat.zero_lt_succ i)
          have hxs : xs.mapM f = .error fault := by
            refine ih.2 ⟨i, Nat.lt_of_succ_lt_succ hi, hfault, ?_⟩
            exact fun j hj hji => hbefore (j + 1) (Nat.succ_lt_succ hj) (Nat.succ_lt_succ hji)
          exact bind_eq_error.2 (.inr ⟨y, hy, bind_eq_error.2 (.inl hxs)⟩)

theorem list_mapM_map_map (f : α → β) (steps : List (Except ε α)) :
    (steps.map (Except.map f)).mapM id = (steps.mapM id).map (List.map f) := by
  induction steps with
  | nil => rfl
  | cons step steps ih =>
      rw [List.map_cons, List.mapM_cons, List.mapM_cons, ih]
      cases step with
      | error fault => rfl
      | ok a => cases steps.mapM id <;> rfl

theorem vector_mapM_congr {n : Nat} {f g : α → Except ε β} {xs : Vector α n}
    (h : ∀ x ∈ xs, f x = g x) : xs.mapM f = xs.mapM g := by
  calc xs.mapM f = (xs.map f).mapM id := by rw [Vector.mapM_map]; rfl
    _ = (xs.map g).mapM id := by rw [Vector.map_congr_left h]
    _ = xs.mapM g := by rw [Vector.mapM_map]; rfl

theorem toList_vector_mapM {n : Nat} (f : α → Except ε β) (xs : Vector α n) :
    (xs.mapM f).map Vector.toList = xs.toList.mapM f := by
  calc (xs.mapM f).map Vector.toList = Array.toList <$> (Vector.toArray <$> xs.mapM f) := by
        cases xs.mapM f <;> rfl
    _ = xs.toList.mapM f := by rw [Vector.toArray_mapM, Array.toList_mapM]; rfl

theorem vector_mapM_eq_ok {n : Nat} {f : α → Except ε β} {xs : Vector α n} {ys : Vector β n} :
    xs.mapM f = .ok ys ↔ xs.map f = ys.map .ok := by
  have hlist : xs.mapM f = .ok ys ↔ xs.toList.mapM f = .ok ys.toList := by
    rw [← toList_vector_mapM]
    cases xs.mapM f <;> simp [Except.map, Vector.toList_inj]
  rw [hlist, list_mapM_eq_ok, ← Vector.toList_map, ← Vector.toList_map, Vector.toList_inj]

theorem vector_mapM_eq_error {n : Nat} {f : α → Except ε β} {xs : Vector α n} {fault : ε} :
    xs.mapM f = .error fault ↔
      ∃ i, ∃ hi : i < n, f xs[i] = .error fault ∧
        ∀ j (hj : j < n), j < i → ∃ y, f xs[j] = .ok y := by
  have hlist : xs.mapM f = .error fault ↔ xs.toList.mapM f = .error fault := by
    rw [← toList_vector_mapM]
    cases xs.mapM f <;> simp [Except.map]
  rw [hlist, list_mapM_eq_error]
  simp only [Vector.length_toList, Vector.getElem_toList]

theorem vector_mapM_map {n : Nat} {γ : Type} (f : α → Except ε β) (g : β → γ) (xs : Vector α n) :
    xs.mapM (fun x => (f x).map g) = (xs.mapM f).map (Vector.map g) := by
  cases h : xs.mapM f with
  | error fault =>
      obtain ⟨i, hi, hfault, hbefore⟩ := vector_mapM_eq_error.1 h
      apply vector_mapM_eq_error.2
      refine ⟨i, hi, by rw [hfault]; rfl, ?_⟩
      intro j hj hji
      obtain ⟨y, hy⟩ := hbefore j hj hji
      exact ⟨g y, by rw [hy]; rfl⟩
  | ok ys =>
      apply vector_mapM_eq_ok.2
      ext i hi
      have hstep := congrArg (·[i]) (vector_mapM_eq_ok.1 h)
      simp only [Vector.getElem_map] at hstep ⊢
      rw [hstep]
      rfl

/-- Both steps fail for one reason, or they yield things that are related. -/
inductive SameOutcome (Related : α → β → Prop) : Except ε α → Except ε β → Prop where
  | ok {a : α} {b : β} (h : Related a b) : SameOutcome Related (.ok a) (.ok b)
  | error (fault : ε) : SameOutcome Related (.error fault) (.error fault)

namespace SameOutcome

theorem bind {α' β' : Type} {Related : α → β → Prop} {Related' : α' → β' → Prop}
    {x : Except ε α} {y : Except ε β} {f : α → Except ε α'} {g : β → Except ε β'}
    (h : SameOutcome Related x y)
    (hnext : ∀ a b, Related a b → SameOutcome Related' (f a) (g b)) :
    SameOutcome Related' (x >>= f) (y >>= g) := by
  cases h with
  | ok hab => exact hnext _ _ hab
  | error fault => exact .error fault

theorem bind_left {α' β' : Type} {Related' : α' → β' → Prop} {f : α → Except ε α'}
    {g : α → Except ε β'} (x : Except ε α) (hnext : ∀ a, SameOutcome Related' (f a) (g a)) :
    SameOutcome Related' (x >>= f) (x >>= g) := by
  cases x with
  | ok a => exact hnext a
  | error fault => exact .error fault

end SameOutcome

end Rollup
