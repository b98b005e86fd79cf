import Mathlib.Tactic.Common

/-!
# Outcomes

What it takes for a computation that may fail to give a result: every step before has given one; and
what its failure may be, if it has one: that of one of its steps.
-/

namespace ProxyFleet

variable {ε α β : Type} {x : Except ε α}

/-- What follows a result goes on with it. -/
@[simp] lemma ok_bind (a : α) (f : α → Except ε β) : (Except.ok a >>= f) = f a := rfl

/-- Two steps in a row give a result exactly when both do. -/
lemma bind_eq_ok {f : α → Except ε β} {b : β} :
    (x >>= f) = .ok b ↔ ∃ a, x = .ok a ∧ f a = .ok b := by
  cases x with
  | error e => exact ⟨nofun, nofun⟩
  | ok a =>
    refine ⟨fun h => ⟨a, rfl, h⟩, ?_⟩
    rintro ⟨_, h, h'⟩
    cases h
    exact h'

/-- An outcome is turned into a result exactly when it is one. -/
lemma map_eq_ok {f : α → β} {b : β} : x.map f = .ok b ↔ ∃ a, x = .ok a ∧ f a = b := by
  cases x with
  | error e => exact ⟨nofun, nofun⟩
  | ok a =>
    refine ⟨fun h => ⟨a, rfl, Except.ok.inj h⟩, ?_⟩
    rintro ⟨_, h, rfl⟩
    cases h
    rfl

/-- A mapped outcome fails as the outcome does. -/
lemma map_eq_error {f : α → β} {e : ε} : x.map f = .error e ↔ x = .error e := by
  cases x with
  | error e =>
    exact ⟨fun h => congrArg _ (Except.error.inj h), fun h => congrArg _ (Except.error.inj h)⟩
  | ok a => exact ⟨nofun, nofun⟩

/-- The result of an outcome is its result as an option. -/
lemma toOption_eq_some {a : α} : x.toOption = some a ↔ x = .ok a := by
  cases x <;> simp [Except.toOption]

/-- What a traversal gives is given by its elements. -/
lemma exists_of_mem_mapM {f : α → Except ε β} {xs : List α} {ys : List β} {b : β}
    (h : xs.mapM f = .ok ys) (mem : b ∈ ys) : ∃ a ∈ xs, f a = .ok b := by
  induction xs generalizing ys with
  | nil =>
    cases h
    cases mem
  | cons a rest ih =>
    rw [List.mapM_cons] at h
    obtain ⟨b', first, h⟩ := bind_eq_ok.mp h
    obtain ⟨others, more, h⟩ := bind_eq_ok.mp h
    cases h
    rcases List.mem_cons.mp mem with rfl | mem
    · exact ⟨a, List.mem_cons_self, first⟩
    · obtain ⟨a', found, given⟩ := ih more mem
      exact ⟨a', List.mem_cons_of_mem _ found, given⟩

/-- The steps of a traversal that succeeds all succeed. -/
lemma forall_of_mapM {f : α → Except ε β} {xs : List α} {ys : List β} (h : xs.mapM f = .ok ys) :
    ∀ a ∈ xs, ∃ b, f a = .ok b := by
  induction xs generalizing ys with
  | nil => nofun
  | cons a rest ih =>
    rw [List.mapM_cons] at h
    obtain ⟨b, first, h⟩ := bind_eq_ok.mp h
    obtain ⟨others, more, -⟩ := bind_eq_ok.mp h
    exact List.forall_mem_cons.mpr ⟨⟨b, first⟩, ih more⟩

/-- A traversal whose steps all succeed succeeds, and gives nothing else than they do. -/
lemma exists_mapM {f : α → Except ε β} {xs : List α} (h : ∀ a ∈ xs, ∃ b, f a = .ok b) :
    ∃ ys, xs.mapM f = .ok ys ∧ ∀ b, b ∈ ys ↔ ∃ a ∈ xs, f a = .ok b := by
  induction xs with
  | nil => exact ⟨[], rfl, by simp⟩
  | cons a rest ih =>
    obtain ⟨b, first⟩ := h a List.mem_cons_self
    obtain ⟨ys, others, mem⟩ := ih fun a' mem => h a' (List.mem_cons_of_mem _ mem)
    refine ⟨b :: ys, ?_, fun b' => ?_⟩
    · rw [List.mapM_cons, first, others]
      rfl
    · simp [mem, first, eq_comm]

/-- A traversal gives the values of its steps, one by one. -/
lemma mapM_eq_ok {f : α → Except ε β} {xs : List α} {ys : List β} :
    xs.mapM f = .ok ys ↔ xs.map f = ys.map .ok := by
  induction xs generalizing ys with
  | nil => cases ys <;> simp [pure, Except.pure]
  | cons a rest ih =>
    rw [List.mapM_cons, bind_eq_ok]
    constructor
    · rintro ⟨b, first, h⟩
      obtain ⟨others, more, h⟩ := bind_eq_ok.mp h
      cases h
      rw [List.map_cons, List.map_cons, first, ih.mp more]
    · intro h
      cases ys with
      | nil => cases h
      | cons b ys =>
        obtain ⟨first, more⟩ := List.cons.inj h
        exact ⟨b, first, bind_eq_ok.mpr ⟨ys, ih.mpr more, rfl⟩⟩

/-- A traversal fails with the failure of its first step that fails. -/
lemma mapM_eq_error {f : α → Except ε β} {xs : List α} {e : ε} : xs.mapM f = .error e ↔
    ∃ before a after, xs = before ++ a :: after ∧ (∀ b ∈ before, ∃ y, f b = .ok y) ∧
      f a = .error e := by
  induction xs with
  | nil => exact ⟨nofun, by simp⟩
  | cons x rest ih =>
    rw [List.mapM_cons]
    cases first : f x with
    | error e' =>
      constructor
      · rintro ⟨⟩
        exact ⟨[], x, rest, rfl, nofun, first⟩
      · rintro ⟨_ | ⟨b, before⟩, a, after, eq, fine, failed⟩ <;> cases eq
        · cases first.symm.trans failed
          rfl
        · obtain ⟨y, read⟩ := fine x List.mem_cons_self
          cases first.symm.trans read
    | ok y =>
      have later : (Except.ok y >>= fun y => rest.mapM f >>= fun ys => pure (y :: ys)) =
          (.error e : Except ε (List β)) ↔ rest.mapM f = .error e := map_eq_error
      rw [later, ih]
      constructor
      · rintro ⟨before, a, after, rfl, fine, failed⟩
        exact ⟨x :: before, a, after, rfl, List.forall_mem_cons.mpr ⟨⟨y, first⟩, fine⟩, failed⟩
      · rintro ⟨_ | ⟨b, before⟩, a, after, eq, fine, failed⟩ <;> cases eq
        · cases first.symm.trans failed
        · exact ⟨before, a, after, rfl, (List.forall_mem_cons.mp fine).2, failed⟩

/-! ## Optional values -/

/-- What has been written item by item is read item by item. -/
lemma mapM_map_some {f : α → Option β} {w : β → α} {bs : List β}
    (h : ∀ b ∈ bs, f (w b) = some b) : (bs.map w).mapM f = some bs := by
  induction bs with
  | nil => rfl
  | cons b bs ih =>
    rw [List.map_cons, List.mapM_cons, h b List.mem_cons_self,
      ih fun b' mem => h b' (List.mem_cons_of_mem _ mem)]
    rfl

/-- A traversal gives one value for every element, and each is given by an element. -/
lemma of_mapM_some {f : α → Option β} {xs : List α} {ys : List β} (h : xs.mapM f = some ys) :
    ys.length = xs.length ∧ ∀ b ∈ ys, ∃ a ∈ xs, f a = some b := by
  induction xs generalizing ys with
  | nil =>
    cases h
    exact ⟨rfl, nofun⟩
  | cons a rest ih =>
    rw [List.mapM_cons] at h
    obtain ⟨b, first, h⟩ := Option.bind_eq_some_iff.mp h
    obtain ⟨others, more, h⟩ := Option.bind_eq_some_iff.mp h
    cases h
    obtain ⟨length, given⟩ := ih more
    refine ⟨by rw [List.length_cons, List.length_cons, length], fun b' mem => ?_⟩
    rcases List.mem_cons.mp mem with rfl | mem
    · exact ⟨a, List.mem_cons_self, first⟩
    · obtain ⟨a', found, given⟩ := given b' mem
      exact ⟨a', List.mem_cons_of_mem _ found, given⟩

/-! ## Operations on a state -/

section
variable {σ : Type}

/-- A result leaves the state as it is. -/
@[simp] lemma run_pure (a : α) (s : σ) : (pure a : ExceptT ε (StateM σ) α) s = (.ok a, s) := rfl

/-- A failure leaves the state as it is. -/
@[simp] lemma run_throw (e : ε) (s : σ) :
    (throw e : ExceptT ε (StateM σ) α) s = (.error e, s) := rfl

/-- An outcome that is there leaves the state as it is. -/
@[simp] lemma run_lift (x : Except ε α) (s : σ) :
    (liftM x : ExceptT ε (StateM σ) α) s = (x, s) := rfl

/-- An operation goes on from where the one before it ended, unless that one failed. -/
lemma run_bind (x : ExceptT ε (StateM σ) α) (f : α → ExceptT ε (StateM σ) β) (s : σ) :
    (x >>= f) s = match x s with
      | (.ok a, s') => f a s'
      | (.error e, s') => (.error e, s') := by
  show ExceptT.bindCont f (x s).1 (x s).2 = _
  rcases x s with ⟨_ | _, _⟩ <;> rfl

end

/-! ## Failures -/

/-- Whether the failure of an outcome, if it is one, satisfies a predicate. -/
def FailsWith (F : ε → Prop) (x : Except ε α) : Prop := ∀ e, x = .error e → F e

namespace FailsWith

variable {F : ε → Prop}

/-- A result has no failure. -/
lemma ok (a : α) : FailsWith F (.ok a : Except ε α) := nofun

/-- A result that is returned has no failure. -/
lemma pure (a : α) : FailsWith F (Pure.pure a : Except ε α) := nofun

/-- A failure fails as it does. -/
lemma error {e : ε} (h : F e) : FailsWith F (.error e : Except ε α) := by
  intro _ eq
  cases eq
  exact h

/-- A failure fails in such a way where it is such a failure. -/
lemma error_iff {e : ε} : FailsWith F (.error e : Except ε α) ↔ F e := ⟨fun h => h e rfl, error⟩

/-- The second step need only be looked at for what the first one gives. -/
lemma bind_iff {f : α → Except ε β} : FailsWith F (x >>= f) ↔
    FailsWith F x ∧ ∀ a, x = .ok a → FailsWith F (f a) := by
  cases x with
  | error e => exact ⟨fun h => ⟨error (h e rfl), nofun⟩, fun h => error (h.1 e rfl)⟩
  | ok a =>
    refine ⟨fun h => ⟨ok a, ?_⟩, fun h => h.2 a rfl⟩
    rintro _ ⟨⟩
    exact h

/-- A sequence fails as its first part does, or as the second does on what the first came to. -/
lemma bind_of_ok {f : α → Except ε β} (hx : FailsWith F x)
    (hf : ∀ a, x = .ok a → FailsWith F (f a)) : FailsWith F (x >>= f) := bind_iff.mpr ⟨hx, hf⟩

/-- A sequence fails as its first part does or as the second does. -/
lemma bind {f : α → Except ε β} (hx : FailsWith F x) (hf : ∀ a, FailsWith F (f a)) :
    FailsWith F (x >>= f) := hx.bind_of_ok fun a _ => hf a

/-- A mapped outcome fails just as the outcome does. -/
lemma map_iff {f : α → β} : FailsWith F (x.map f) ↔ FailsWith F x :=
  ⟨fun h e eq => h e (map_eq_error.mpr eq), fun h e eq => h e (map_eq_error.mp eq)⟩

/-- A mapped outcome fails as the outcome does. -/
lemma map {f : α → β} (hx : FailsWith F x) : FailsWith F (x.map f) := map_iff.mpr hx

/-- Going through a list fails as one of the elements does. -/
lemma mapM {f : α → Except ε β} {xs : List α} (hf : ∀ a ∈ xs, FailsWith F (f a)) :
    FailsWith F (xs.mapM f) := by
  induction xs with
  | nil => exact pure _
  | cons a rest ih =>
    rw [List.mapM_cons]
    exact (hf a List.mem_cons_self).bind fun _ =>
      (ih fun b mem => hf b (List.mem_cons_of_mem _ mem)).bind fun _ => pure _

end FailsWith

/-- Whether two outcomes are both results or both failures, and related as such. -/
inductive Corresponds {α β : Type} (E : ε → ε → Prop) (R : α → β → Prop) :
    Except ε α → Except ε β → Prop where
  | ok {a b} : R a b → Corresponds E R (.ok a) (.ok b)
  | error {e e'} : E e e' → Corresponds E R (.error e) (.error e')

namespace Corresponds

variable {α' β' : Type} {E E' : ε → ε → Prop} {R R' : α → α' → Prop} {S : β → β' → Prop}
  {y : Except ε α'}

/-- Related results correspond. -/
lemma pure {a : α} {b : α'} (h : R a b) :
    Corresponds E R (Pure.pure a : Except ε α) (Pure.pure b) := .ok h

/-- An outcome corresponds to itself. -/
lemma refl (x : Except ε α) : Corresponds Eq Eq x x := by
  cases x with
  | ok => exact .ok rfl
  | error => exact .error rfl

/-- Outcomes that correspond by equality are equal. -/
lemma eq {x y : Except ε α} (h : Corresponds Eq Eq x y) : x = y := by
  cases h with
  | ok h => rw [h]
  | error h => rw [h]

/-- Outcomes correspond by weaker relations. -/
lemma mono (hE : ∀ e e', E e e' → E' e e') (hR : ∀ a b, R a b → R' a b)
    (h : Corresponds E R x y) : Corresponds E' R' x y := by
  cases h with
  | ok h => exact .ok (hR _ _ h)
  | error h => exact .error (hE _ _ h)

/-- Sequences correspond if their parts do. -/
lemma bind {f : α → Except ε β} {g : α' → Except ε β'} (hx : Corresponds E R x y)
    (hf : ∀ a b, R a b → Corresponds E S (f a) (g b)) : Corresponds E S (x >>= f) (y >>= g) := by
  cases hx with
  | ok h => exact hf _ _ h
  | error h => exact .error h

/-- Outcomes still correspond when they are mapped to related results. -/
lemma map {f : α → β} {g : α' → β'} (hx : Corresponds E R x y) (hf : ∀ a b, R a b → S (f a) (g b)) :
    Corresponds E S (x.map f) (y.map g) := by
  cases hx with
  | ok h => exact .ok (hf _ _ h)
  | error h => exact .error h

end Corresponds

end ProxyFleet
