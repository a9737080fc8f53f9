import InfraSynth.Logged
import Mathlib.Data.List.Forall2

/-!
# Results that may be errors

A reader that is put together from others gives a value exactly if each of them
does, and its error is that of the first one that fails.  The readers of lists
of parts are covered by `mapM_cons_eq_ok_iff` and `mapM_map_eq_ok`.

`Meets` compares a computation with a check made beforehand: it fails with the
fault that the check finds, and has a property if the check finds none.  Warnings
have no part in that, so the lemmas on `Logged.result` drop them.

`Agree` compares two computations: both fail, perhaps for different reasons, or
their values are related.
-/

namespace InfraSynth.Outcome

variable {ε α β γ : Type}

theorem bind_eq_ok_iff {x : Except ε α} {f : α → Except ε β} {b : β} :
    (x >>= f) = .ok b ↔ ∃ a, x = .ok a ∧ f a = .ok b := by
  cases x <;> simp [bind, Except.bind]

theorem bind_eq_error_iff {x : Except ε α} {f : α → Except ε β} {e : ε} :
    (x >>= f) = .error e ↔ x = .error e ∨ ∃ a, x = .ok a ∧ f a = .error e := by
  cases x <;> simp [bind, Except.bind]

theorem mapError_eq_ok_iff {δ : Type} {x : Except ε α} {f : ε → δ} {a : α} :
    x.mapError f = .ok a ↔ x = .ok a := by
  cases x <;> simp [Except.mapError]

theorem mapError_eq_error_iff {δ : Type} {x : Except ε α} {f : ε → δ} {e : δ} :
    x.mapError f = .error e ↔ ∃ cause, x = .error cause ∧ f cause = e := by
  cases x <;> simp [Except.mapError]

theorem map_eq_ok_iff {x : Except ε α} {f : α → β} {b : β} :
    x.map f = .ok b ↔ ∃ a, x = .ok a ∧ f a = b := by
  cases x <;> simp [Except.map]

theorem map_map {x : Except ε α} {f : α → β} {g : β → γ} :
    (x.map f).map g = x.map fun a => g (f a) := by
  cases x <;> rfl

theorem map_self {x : Except ε α} : x.map (fun a => a) = x := by
  cases x <;> rfl

theorem ok_bind {a : α} {f : α → Except ε β} : (.ok a >>= f) = f a :=
  rfl

theorem toOption_eq_some_iff {x : Except ε α} {a : α} : x.toOption = some a ↔ x = .ok a := by
  cases x <;> simp [Except.toOption]

theorem pure_eq_ok_iff {a b : α} : (pure a : Except ε α) = .ok b ↔ a = b := by
  simp [pure, Except.pure]

/-- A list is read item by item. -/
theorem mapM_cons_eq_ok_iff {read : α → Except ε β} {x : α} {xs : List α} {values : List β} :
    (x :: xs).mapM read = .ok values ↔
      ∃ y ys, read x = .ok y ∧ xs.mapM read = .ok ys ∧ y :: ys = values := by
  rw [List.mapM_cons, bind_eq_ok_iff]
  simp only [bind_eq_ok_iff, pure_eq_ok_iff]
  constructor
  · rintro ⟨y, hy, ys, hys, heq⟩
    exact ⟨y, ys, hy, hys, heq⟩
  · rintro ⟨y, ys, hy, hys, heq⟩
    exact ⟨y, hy, ys, hys, heq⟩

/-- A list is read if its items are. -/
theorem mapM_eq_ok_iff {read : α → Except ε β} {xs : List α} {ys : List β} :
    xs.mapM read = .ok ys ↔ List.Forall₂ (fun x y => read x = .ok y) xs ys := by
  induction xs generalizing ys with
  | nil => simp [pure, Except.pure, eq_comm]
  | cons x xs ih =>
      rw [mapM_cons_eq_ok_iff, List.forall₂_cons_left_iff]
      simp only [ih]
      constructor
      · rintro ⟨y, ys, hy, hys, rfl⟩
        exact ⟨y, ys, hy, hys, rfl⟩
      · rintro ⟨y, ys, hy, hys, rfl⟩
        exact ⟨y, ys, hy, hys, rfl⟩

/-- What is read from a list was read from its items. -/
theorem exists_of_mapM_eq_ok {read : α → Except ε β} {xs : List α} {values : List β}
    (h : xs.mapM read = .ok values) {value : β} (hvalue : value ∈ values) :
    ∃ x ∈ xs, read x = .ok value := by
  induction xs generalizing values with
  | nil =>
      rw [List.mapM_nil, pure_eq_ok_iff] at h
      subst h
      contradiction
  | cons x xs ih =>
      obtain ⟨y, ys, hy, hys, rfl⟩ := mapM_cons_eq_ok_iff.mp h
      rcases List.mem_cons.mp hvalue with rfl | hrest
      · exact ⟨x, List.mem_cons_self .., hy⟩
      · obtain ⟨x', hx', hread⟩ := ih hys hrest
        exact ⟨x', List.mem_cons_of_mem _ hx', hread⟩

/-- What every step of a loop preserves holds after the loop. -/
theorem foldlM_preserves {σ : Type} {step : σ → α → Except ε σ} {invariant : σ → Prop}
    {xs : List α} {start final : σ}
    (hstep : ∀ x ∈ xs, ∀ s t, invariant s → step s x = .ok t → invariant t)
    (hstart : invariant start) (h : xs.foldlM step start = .ok final) : invariant final := by
  induction xs generalizing start with
  | nil =>
      rw [List.foldlM_nil, pure_eq_ok_iff] at h
      exact h ▸ hstart
  | cons x xs ih =>
      rw [List.foldlM_cons, bind_eq_ok_iff] at h
      obtain ⟨next, hnext, hrest⟩ := h
      exact ih (fun y hy => hstep y (List.mem_cons_of_mem _ hy))
        (hstep x (List.mem_cons_self ..) start next hstart hnext) hrest

/-- A place in a list is the first one or a place in the rest. -/
theorem exists_place_cons_iff {property : List α → α → Prop} {y : α} {xs : List α} :
    (∃ before x after, y :: xs = before ++ x :: after ∧ property before x) ↔
      property [] y ∨ ∃ before x after, xs = before ++ x :: after ∧ property (y :: before) x := by
  constructor
  · rintro ⟨before, x, after, hplace, hx⟩
    rcases List.cons_eq_append_iff.mp hplace with ⟨rfl, hcons⟩ | ⟨rest, rfl, rfl⟩
    · obtain ⟨rfl, rfl⟩ := List.cons.inj hcons
      exact Or.inl hx
    · exact Or.inr ⟨rest, x, after, rfl, hx⟩
  · rintro (hy | ⟨before, x, after, rfl, hx⟩)
    · exact ⟨[], y, xs, rfl, hy⟩
    · exact ⟨y :: before, x, after, rfl, hx⟩

/-- A loop fails at the first step that does. -/
theorem foldlM_eq_error_iff {σ : Type} {step : σ → α → Except ε σ} {xs : List α} {start : σ}
    {e : ε} :
    xs.foldlM step start = .error e ↔ ∃ before x after, xs = before ++ x :: after ∧
      ∃ mid, before.foldlM step start = .ok mid ∧ step mid x = .error e := by
  induction xs generalizing start with
  | nil => simp [pure, Except.pure]
  | cons y xs ih =>
      rw [List.foldlM_cons, bind_eq_error_iff, exists_place_cons_iff]
      simp only [ih, List.foldlM_nil, List.foldlM_cons, pure_eq_ok_iff, bind_eq_ok_iff]
      constructor
      · rintro (hy | ⟨next, hnext, before, x, after, hplace, mid, hmid, hx⟩)
        · exact Or.inl ⟨start, rfl, hy⟩
        · exact Or.inr ⟨before, x, after, hplace, mid, ⟨next, hnext, hmid⟩, hx⟩
      · rintro (⟨_, rfl, hy⟩ | ⟨before, x, after, hplace, mid, ⟨next, hnext, hmid⟩, hx⟩)
        · exact Or.inl hy
        · exact Or.inr ⟨next, hnext, before, x, after, hplace, mid, hmid, hx⟩

/-- Items that read back one by one read back as a list. -/
theorem mapM_map_eq_ok {read : α → Except ε γ} {write : β → α} {value : β → γ} {xs : List β}
    (h : ∀ x ∈ xs, read (write x) = .ok (value x)) :
    (xs.map write).mapM read = .ok (xs.map value) := by
  induction xs with
  | nil => rfl
  | cons x xs ih =>
      rw [List.map_cons, List.map_cons, mapM_cons_eq_ok_iff]
      exact ⟨_, _, h x (List.mem_cons_self ..), ih fun y hy => h y (List.mem_cons_of_mem _ hy), rfl⟩

/-- What each value has in common with its item, all have. -/
theorem map_eq_map_of_mapM_eq_ok {read : α → Except ε β} {f : α → γ} {g : β → γ} {xs : List α}
    {values : List β} (hread : ∀ {x value}, read x = .ok value → g value = f x)
    (h : xs.mapM read = .ok values) : values.map g = xs.map f := by
  induction xs generalizing values with
  | nil =>
      cases h
      rfl
  | cons x xs ih =>
      obtain ⟨y, ys, hx, hxs, rfl⟩ := mapM_cons_eq_ok_iff.mp h
      rw [List.map_cons, List.map_cons, hread hx, ih hxs]

/-- What can be recovered from each value is recovered from all. -/
theorem map_eq_of_mapM_eq_ok {read : α → Except ε β} {write : β → α} {xs : List α}
    {values : List β} (hwrite : ∀ {x value}, read x = .ok value → write value = x)
    (h : xs.mapM read = .ok values) : values.map write = xs := by
  have hmap := map_eq_map_of_mapM_eq_ok (f := id) hwrite h
  rwa [List.map_id] at hmap

/-- Every value is read from the item at its place. -/
theorem zip_of_mapM_eq_ok {read : α → Except ε β} {xs : List α} {values : List β}
    (h : xs.mapM read = .ok values) :
    xs.length = values.length ∧ ∀ pair ∈ xs.zip values, read pair.1 = .ok pair.2 := by
  induction xs generalizing values with
  | nil =>
      cases h
      exact ⟨rfl, fun _ hpair => absurd hpair List.not_mem_nil⟩
  | cons x xs ih =>
      obtain ⟨y, ys, hx, hxs, rfl⟩ := mapM_cons_eq_ok_iff.mp h
      obtain ⟨hlength, hpairs⟩ := ih hxs
      refine ⟨congrArg (· + 1) hlength, fun pair hpair => ?_⟩
      rcases List.mem_cons.mp hpair with rfl | hpair
      · exact hx
      · exact hpairs pair hpair

/-! ## Computations that fail as foreseen -/

/-- The error of a result. -/
def fault? : Except ε α → Option ε
  | .ok _ => none
  | .error e => some e

/-- The result is the error that was foreseen, or if there is none a value with a
property. -/
def Meets (result : Except ε α) (fault : Option ε) (property : α → Prop) : Prop :=
  match fault with
  | some e => result = .error e
  | none => ∃ a, result = .ok a ∧ property a

variable {result : Except ε α} {fault : Option ε} {property : α → Prop}

theorem fault?_eq_none_iff : fault? result = none ↔ ∃ a, result = .ok a := by
  cases result <;> simp [fault?]

/-- A check gives nothing but an error. -/
theorem fault?_check_eq_none_iff {check : Except ε Unit} :
    fault? check = none ↔ check = .ok () := by
  rw [fault?_eq_none_iff]
  exact ⟨fun ⟨(), h⟩ => h, fun h => ⟨(), h⟩⟩

/-- A result fails with its own error. -/
theorem Meets.self : Meets result (fault? result) fun a => result = .ok a := by
  cases result with
  | ok a => exact ⟨a, rfl, rfl⟩
  | error e => rfl

theorem Meets.error_iff {e : ε} (h : Meets result fault property) :
    result = .error e ↔ fault = some e := by
  cases fault with
  | some found =>
      rw [show result = .error found from h]
      simp
  | none =>
      obtain ⟨a, ha, -⟩ := h
      simp [ha]

theorem Meets.exists_ok_iff (h : Meets result fault property) :
    (∃ a, result = .ok a) ↔ fault = none := by
  cases fault with
  | some found => simp [show result = .error found from h]
  | none =>
      obtain ⟨a, ha, -⟩ := h
      simp [ha]

theorem Meets.of_ok {a : α} (h : Meets result fault property) (hresult : result = .ok a) :
    property a := by
  obtain rfl := h.exists_ok_iff.mp ⟨a, hresult⟩
  obtain ⟨b, hb, hproperty⟩ := h
  obtain rfl : a = b := by simpa [hresult] using hb
  exact hproperty

theorem Meets.mono {weaker : α → Prop} (h : Meets result fault property)
    (himp : ∀ a, property a → weaker a) : Meets result fault weaker := by
  cases fault with
  | some e => exact h
  | none =>
      obtain ⟨a, ha, hproperty⟩ := h
      exact ⟨a, ha, himp a hproperty⟩

/-- Of two steps in a row, the fault of the first one comes first. -/
theorem Meets.bind {next : α → Except ε β} {later : Option ε} {after : β → Prop}
    (h : Meets result fault property)
    (hnext : ∀ a, property a → Meets (next a) later after) :
    Meets (result >>= next) (fault.or later) after := by
  cases fault with
  | some e =>
      rw [show result = .error e from h]
      rfl
  | none =>
      obtain ⟨a, rfl, hproperty⟩ := h
      exact hnext a hproperty

/-- A step after which nothing can fail. -/
theorem Meets.bind_pure {next : α → β} {after : β → Prop} (h : Meets result fault property)
    (hnext : ∀ a, property a → after (next a)) :
    Meets (result >>= fun a => pure (next a)) fault after := by
  have hpure : ∀ a, property a → Meets (pure (next a) : Except ε β) none after :=
    fun a ha => ⟨next a, rfl, hnext a ha⟩
  simpa using h.bind hpure

/-- The items of a list, each with those before it. -/
def trail (before : List α) : List α → List (List α × α)
  | [] => []
  | x :: rest => (before, x) :: trail (before ++ [x]) rest

theorem map_snd_trail {before xs : List α} : (trail before xs).map Prod.snd = xs := by
  induction xs generalizing before with
  | nil => rfl
  | cons x xs ih => rw [trail, List.map_cons, ih]

theorem findSome?_trail {before xs : List α} (find : α → Option β) :
    ((trail before xs).findSome? fun place => find place.2) = xs.findSome? find := by
  have hmap := List.findSome?_map (p := find) (f := Prod.snd) (l := trail before xs)
  rw [map_snd_trail] at hmap
  exact hmap.symm

/-- A loop meets the faults of its steps in order, if each step meets its own in
every state that belongs to the items before. -/
theorem Meets.foldlM {σ : Type} {step : σ → α → Except ε σ} (check : List α → α → Option ε)
    (invariant : List α → σ → Prop)
    (hstep : ∀ before x s, invariant before s →
      Meets (step s x) (check before x) (invariant (before ++ [x])))
    {before xs : List α} {start : σ} (hstart : invariant before start) :
    Meets (xs.foldlM step start) ((trail before xs).findSome? fun place => check place.1 place.2)
      (invariant (before ++ xs)) := by
  induction xs generalizing before start with
  | nil => exact ⟨start, rfl, by simpa using hstart⟩
  | cons x xs ih =>
      have hrest : ∀ s, invariant (before ++ [x]) s → Meets (xs.foldlM step s)
          ((trail (before ++ [x]) xs).findSome? fun place => check place.1 place.2)
          (invariant (before ++ x :: xs)) := by
        intro s hs
        simpa using ih hs
      have hloop := (hstep before x start hstart).bind hrest
      rw [List.foldlM_cons, trail, List.findSome?_cons]
      cases hfault : check before x with
      | some e => simpa [hfault] using hloop
      | none => simpa [hfault] using hloop

/-! ## Computations that agree -/

/-- Two results are both errors, or both values, which are then related. -/
inductive Agree (R : α → β → Prop) : Except ε α → Except ε β → Prop
  | ok {a : α} {b : β} (h : R a b) : Agree R (.ok a) (.ok b)
  | error (e f : ε) : Agree R (.error e) (.error f)

namespace Agree

variable {δ : Type} {R : α → β → Prop} {x : Except ε α} {y : Except ε β}

theorem refl {R : α → α → Prop} (h : ∀ a, R a a) (x : Except ε α) : Agree R x x := by
  cases x with
  | ok a => exact .ok (h a)
  | error e => exact .error e e

theorem of_ok {a : α} {b : β} (h : Agree R (.ok a : Except ε α) (.ok b)) : R a b := by
  cases h with
  | ok h => exact h

theorem mono {S : α → β → Prop} (h : Agree R x y) (himp : ∀ a b, R a b → S a b) : Agree S x y := by
  cases h with
  | ok h => exact .ok (himp _ _ h)
  | error e f => exact .error e f

/-- The values that are related are those of the results. -/
theorem remember (h : Agree R x y) : Agree (fun a b => x = .ok a ∧ y = .ok b ∧ R a b) x y := by
  cases h with
  | ok h => exact .ok ⟨rfl, rfl, h⟩
  | error e f => exact .error e f

theorem trans {S : β → γ → Prop} {z : Except ε γ} (hxy : Agree R x y) (hyz : Agree S y z) :
    Agree (fun a c => ∃ b, R a b ∧ S b c) x z := by
  cases hxy with
  | ok h =>
      cases hyz with
      | ok h' => exact .ok ⟨_, h, h'⟩
  | error e f =>
      cases hyz with
      | error f g => exact .error e g

theorem trans_eq {z : Except ε β} (hxy : Agree R x y) (hyz : Agree Eq y z) : Agree R x z := by
  refine (hxy.trans hyz).mono ?_
  rintro a _ ⟨b, h, rfl⟩
  exact h

theorem bind {S : γ → δ → Prop} {f : α → Except ε γ} {g : β → Except ε δ} (h : Agree R x y)
    (hnext : ∀ a b, R a b → Agree S (f a) (g b)) : Agree S (x >>= f) (y >>= g) := by
  cases h with
  | ok h => exact hnext _ _ h
  | error e f => exact .error e f

theorem symm {x y : Except ε α} (h : Agree Eq x y) : Agree Eq y x := by
  cases h with
  | ok h => exact .ok h.symm
  | error e f => exact .error f e

theorem map {S : γ → δ → Prop} {f : α → γ} {g : β → δ} (h : Agree R x y)
    (hmap : ∀ a b, R a b → S (f a) (g b)) : Agree S (x.map f) (y.map g) := by
  cases h with
  | ok h => exact .ok (hmap _ _ h)
  | error e f => exact .error e f

/-- A step after which nothing can fail. -/
theorem bind_pure {S : γ → δ → Prop} {f : α → γ} {g : β → δ} (h : Agree R x y)
    (hnext : ∀ a b, R a b → S (f a) (g b)) :
    Agree S (x >>= fun a => pure (f a)) (y >>= fun b => pure (g b)) :=
  h.bind fun a b hab => .ok (hnext a b hab)

/-! Loops over lists whose items are related one by one. -/

theorem mapM {P : γ → δ → Prop} {f : γ → Except ε α} {g : δ → Except ε β} {xs : List γ}
    {ys : List δ} (hlists : List.Forall₂ P xs ys) (h : ∀ x y, P x y → Agree R (f x) (g y)) :
    Agree (List.Forall₂ R) (xs.mapM f) (ys.mapM g) := by
  induction hlists with
  | nil => exact .ok .nil
  | cons hxy _ ih =>
      rw [List.mapM_cons, List.mapM_cons]
      exact (h _ _ hxy).bind fun a b hab => ih.bind_pure fun as bs hrest => .cons hab hrest

theorem foldlM {P : γ → δ → Prop} {f : α → γ → Except ε α} {g : β → δ → Except ε β} {xs : List γ}
    {ys : List δ} {s : α} {t : β} (hlists : List.Forall₂ P xs ys)
    (h : ∀ s t x y, R s t → P x y → Agree R (f s x) (g t y)) (hstart : R s t) :
    Agree R (xs.foldlM f s) (ys.foldlM g t) := by
  induction hlists generalizing s t with
  | nil => exact .ok hstart
  | cons hxy _ ih =>
      rw [List.foldlM_cons, List.foldlM_cons]
      exact (h s t _ _ hstart hxy).bind fun s t hst => ih hst

/-! Loops over the same items in another order. -/

theorem mapM_of_perm {f : γ → Except ε α} {xs ys : List γ} (h : xs.Perm ys) :
    Agree List.Perm (xs.mapM f) (ys.mapM f) := by
  induction h with
  | nil => exact .ok .nil
  | cons x _ ih =>
      rw [List.mapM_cons, List.mapM_cons]
      refine (refl (R := Eq) (fun _ => rfl) (f x)).bind ?_
      rintro a _ rfl
      exact ih.bind_pure fun as bs hrest => hrest.cons a
  | swap x y rest =>
      simp only [List.mapM_cons]
      cases f x with
      | error e => cases f y <;> exact .error _ _
      | ok a =>
          cases f y with
          | error e => exact .error _ _
          | ok b =>
              cases rest.mapM f with
              | error e => exact .error _ _
              | ok as => exact .ok (.swap a b as)
  | trans _ _ ih₁ ih₂ => exact (ih₁.trans ih₂).mono fun a c ⟨b, hab, hbc⟩ => hab.trans hbc

/-- If two steps can be swapped, all can be permuted. -/
theorem foldlM_of_perm {f : α → γ → Except ε α} {xs ys : List γ} (h : xs.Perm ys)
    (hswap : ∀ s x y, Agree Eq (f s x >>= fun t => f t y) (f s y >>= fun t => f t x)) (s : α) :
    Agree Eq (xs.foldlM f s) (ys.foldlM f s) := by
  induction h generalizing s with
  | nil => exact .ok rfl
  | cons x _ ih =>
      rw [List.foldlM_cons, List.foldlM_cons]
      refine (refl (R := Eq) (fun _ => rfl) (f s x)).bind ?_
      rintro t _ rfl
      exact ih t
  | swap x y rest =>
      have hsteps : ∀ x y, (x :: y :: rest).foldlM f s =
          (f s x >>= fun t => f t y) >>= fun t => rest.foldlM f t := by
        intro x y
        rw [List.foldlM_cons, bind_assoc]
        rfl
      rw [hsteps, hsteps]
      refine (hswap s y x).bind ?_
      rintro t _ rfl
      exact refl (fun _ => rfl) _
  | trans _ _ ih₁ ih₂ => exact (ih₁ s).trans_eq (ih₂ s)

end Agree

/-! Steps on one part of a pair. -/

theorem map_fst_bind (f g : α → Except ε α) (pair : α × β) :
    ((f pair.1).map (fun a => (a, pair.2)) >>= fun pair => (g pair.1).map fun a => (a, pair.2)) =
      (f pair.1 >>= g).map fun a => (a, pair.2) := by
  cases f pair.1 <;> rfl

theorem map_snd_bind (f g : β → Except ε β) (pair : α × β) :
    ((f pair.2).map (fun b => (pair.1, b)) >>= fun pair => (g pair.2).map fun b => (pair.1, b)) =
      (f pair.2 >>= g).map fun b => (pair.1, b) := by
  cases f pair.2 <;> rfl

/-- Steps on different parts of a pair can be swapped. -/
theorem agree_map_swap (f : α → Except ε α) (g : β → Except ε β) (pair : α × β) :
    Agree Eq
      ((f pair.1).map (fun a => (a, pair.2)) >>= fun pair => (g pair.2).map fun b => (pair.1, b))
      ((g pair.2).map (fun b => (pair.1, b)) >>= fun pair =>
        (f pair.1).map fun a => (a, pair.2)) := by
  obtain ⟨a, b⟩ := pair
  cases hf : f a with
  | error e =>
      cases hg : g b <;> simp only [Except.map, bind, Except.bind, hf] <;> exact .error _ _
  | ok first =>
      cases hg : g b with
      | error e =>
          simp only [Except.map, bind, Except.bind, hg]
          exact .error _ _
      | ok second =>
          simp only [Except.map, bind, Except.bind, hf, hg]
          exact .ok rfl

end InfraSynth.Outcome

namespace InfraSynth.Logged

variable {α β σ : Type}

@[simp] theorem result_pure {value : α} : (pure value : Logged α).result = .ok value :=
  rfl

@[simp] theorem result_ofExcept {result : Except Error α} : (ofExcept result).result = result :=
  rfl

@[simp] theorem result_bind {logged : Logged α} {next : α → Logged β} :
    (logged >>= next).result = logged.result >>= fun value => (next value).result := by
  show (Logged.bind logged next).result = _
  unfold Logged.bind
  cases logged.result <;> rfl

@[simp] theorem result_warn {warnings : List String} : (warn warnings).result = .ok () :=
  rfl

/-- The result of a loop is that of the loop over the results. -/
theorem result_foldlM {step : σ → α → Logged σ} {xs : List α} {start : σ} :
    (xs.foldlM step start).result = xs.foldlM (fun s x => (step s x).result) start := by
  induction xs generalizing start with
  | nil => rfl
  | cons x xs ih =>
      rw [List.foldlM_cons, List.foldlM_cons, result_bind]
      simp only [ih]

end InfraSynth.Logged
