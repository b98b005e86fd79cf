import Mathlib.Data.List.Forall2
import ProxyFleet.Proofs.Docker.Composed

/-!
# Two runs side by side

Two operations that are run in sessions with the same answers stay side by side when each asks in
its turn for what the other asks for, up to a relation between the calls. `Parallel` says so of two
operations and is closed under the ways in which operations are put together. A composed operation
is parallel to itself: what happened before does not matter to it.
-/

namespace ProxyFleet.Docker

/-- Whether two sessions have the same binary, answers and identifiers to give out, and logs whose
events are related one by one. -/
structure Session.Alike (C : Event → Event → Prop) (σ σ' : Session) : Prop where
  binary : σ.binary = σ'.binary
  answers : σ.answers = σ'.answers
  issued : σ.issued = σ'.issued
  log : List.Forall₂ C σ.log σ'.log

/-- Whether two operations, run in alike sessions, come to related outcomes and leave alike sessions
behind. -/
def Parallel {α α' : Type} (C : Event → Event → Prop) (E : Failure → Failure → Prop)
    (R : α → α' → Prop) (x : Run α) (y : Run α') : Prop :=
  ∀ σ σ', σ.Alike C σ' → Corresponds E R (x σ).1 (y σ').1 ∧ (x σ).2.Alike C (y σ').2

variable {α α' β β' : Type} {C : Event → Event → Prop} {E E' : Failure → Failure → Prop}
  {R : α → α' → Prop} {S : β → β' → Prop} {x : Run α} {y : Run α'}

/-- Alike sessions stay alike when related events are added to them. -/
lemma Session.Alike.append {σ σ' : Session} {e e' : Event} (h : σ.Alike C σ') (related : C e e') :
    ({ σ with log := σ.log ++ [e] } : Session).Alike C { σ' with log := σ'.log ++ [e'] } :=
  ⟨h.binary, h.answers, h.issued, List.rel_append h.log (.cons related .nil)⟩

namespace Parallel

/-- Related outcomes are parallel operations. -/
lemma lift {x : Except Failure α} {y : Except Failure α'} (h : Corresponds E R x y) :
    Parallel C E R (liftM x) (liftM y) := fun _ _ alike => ⟨h, alike⟩

/-- Related results are parallel operations. -/
lemma pure {a : α} {b : α'} (h : R a b) : Parallel C E R (Pure.pure a) (Pure.pure b) := lift (.ok h)

/-- Related failures are parallel operations. -/
lemma throw {e e' : Failure} (h : E e e') :
    Parallel C E R (MonadExcept.throw e) (MonadExcept.throw e') := lift (.error h)

/-- Sequences are parallel if their parts are. -/
lemma bind {f : α → Run β} {g : α' → Run β'} (hx : Parallel C E R x y)
    (hf : ∀ a b, R a b → Parallel C E S (f a) (g b)) : Parallel C E S (x >>= f) (y >>= g) := by
  intro σ σ' alike
  obtain ⟨outcomes, sessions⟩ := hx σ σ' alike
  rw [run_bind, run_bind]
  rcases ran : x σ with ⟨r, σ₁⟩
  rcases ran' : y σ' with ⟨r', σ₁'⟩
  rw [ran, ran'] at outcomes sessions
  cases outcomes with
  | ok related => exact hf _ _ related σ₁ σ₁' sessions
  | error related => exact ⟨.error related, sessions⟩

/-- Attempts at parallel operations come to related outcomes. -/
lemma attempt (hx : Parallel C E R x y) :
    Parallel C E' (Corresponds E R) (Docker.attempt x) (Docker.attempt y) := by
  intro σ σ' alike
  obtain ⟨outcomes, sessions⟩ := hx σ σ' alike
  exact ⟨.ok outcomes, sessions⟩

/-- What is known of the results of both operations may be used of related ones. -/
lemma yields {T : α → Prop} (h : Parallel C E R x y) (hy : Yields T x) :
    Parallel C E (fun a b => R a b ∧ T a) x y := by
  intro σ σ' alike
  obtain ⟨outcomes, sessions⟩ := h σ σ' alike
  refine ⟨?_, sessions⟩
  have yielded := hy σ
  generalize (x σ).1 = r, (y σ').1 = r' at outcomes yielded
  cases outcomes with
  | ok related => exact .ok ⟨related, yielded _ rfl⟩
  | error related => exact .error related

/-- Two commands that take their answers from the same place get the same answer. -/
lemma run {args args' : List Text} {R : Text → Text → Prop} (key : answerKey args = answerKey args')
    (call : ∀ binary reply, C (.call (binary :: args) reply) (.call (binary :: args') reply))
    (result : ∀ reply : Reply, Corresponds E R (reply.result args) (reply.result args')) :
    Parallel C E R (run args) (run args') := by
  intro σ σ' alike
  have next : (ask args' σ').1 = (ask args σ).1 := by simp only [ask, key, alike.answers]
  have rest : (ask args' σ').2 = { σ' with
      answers := (ask args σ).2.answers
      log := σ'.log ++ [.call (σ.binary :: args') (ask args σ).1] } := by
    simp only [ask, key, alike.answers, alike.binary]
  refine ⟨?_, ?_⟩
  · show Corresponds E R ((ask args σ).1.result args) ((ask args' σ').1.result args')
    rw [next]
    exact result _
  · show (ask args σ).2.Alike C (ask args' σ').2
    rw [rest]
    exact ⟨alike.binary, rfl, alike.issued, (alike.append (call _ _)).log⟩

/-- Alike sessions give the same ids. -/
lemma newId : Parallel C E Eq newId newId := by
  intro σ σ' alike
  refine ⟨?_, alike.binary, alike.answers, congrArg (· + 1) alike.issued, alike.log⟩
  rw [run_newId, run_newId]
  exact .ok (congrArg (fun n : Nat => "runner-" ++ Text.numeral (n + 1)) alike.issued)

/-- Pauses are parallel if every event is related to itself. -/
lemma pause (refl : ∀ e, C e e) : Parallel C E Eq pause pause :=
  fun _ _ alike => ⟨.ok rfl, alike.append (refl _)⟩

end Parallel

/-- A composed operation does the same in alike sessions. -/
lemma Composed.parallel {P : List Text → Prop} {x : Run α} (h : Composed P x)
    (refl : ∀ e, C e e) : Parallel C Eq Eq x x := by
  induction h with
  | lift => exact .lift (.refl _)
  | run => exact .run rfl (fun _ _ => refl _) fun _ => .refl _
  | bind _ _ ih ih' =>
    refine .bind ih ?_
    rintro a _ rfl
    exact ih' a
  | @attempt _ _ x f hx _ ih ih' =>
    intro σ σ' alike
    obtain ⟨outcomes, sessions⟩ := ih σ σ' alike
    have goes := ih' (x σ).1 (hx.ordinary σ) _ _ sessions
    show Corresponds Eq Eq (f (x σ).1 (x σ).2).1 (f (x σ').1 (x σ').2).1 ∧
      (f (x σ).1 (x σ).2).2.Alike C (f (x σ').1 (x σ').2).2
    rw [← outcomes.eq]
    exact goes

end ProxyFleet.Docker
