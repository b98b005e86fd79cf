import ProxyFleet.Proofs.Docker.Log
import ProxyFleet.Proofs.Docker.Reading

/-!
# Composed operations

Most operations are nothing but docker commands and steps that look into what docker has answered.
What such an operation asks, that it fails with ordinary failures only, and that it does not depend
on what has happened before follow from how it is composed.
-/

namespace ProxyFleet.Docker

/-- Whether an operation is composed of docker commands with arguments that satisfy a predicate and
of steps that are no cancellations. -/
inductive Composed (P : List Text → Prop) : {α : Type} → Run α → Prop where
  | lift {α : Type} {x : Except Failure α} : Ordinary x → Composed P (liftM x : Run α)
  | run {args : List Text} : P args → Composed P (run args)
  | bind {α β : Type} {x : Run α} {f : α → Run β} :
    Composed P x → (∀ a, Composed P (f a)) → Composed P (x >>= f)
  /-- An attempt goes on with any outcome that may be that of the operation. -/
  | attempt {α β : Type} {x : Run α} {f : Except Failure α → Run β} :
    Composed P x → (∀ r, Ordinary r → Composed P (f r)) → Composed P (attempt x >>= f)

namespace Composed

variable {α β : Type} {P Q : List Text → Prop} {x : Run α}

/-- A value is composed of nothing. -/
lemma pure (a : α) : Composed P (Pure.pure a : Run α) := lift (.ok a)

/-- A failure that is no interruption is composed of nothing. -/
lemma throw {e : Failure} (h : e.isOrdinary = true) :
    Composed P (MonadExcept.throw e : Run α) := lift (.error h)

/-- After a step that has given something, the operation goes on with that. -/
lemma lift_bind {x : Except Failure α} {f : α → Run β} (h : Ordinary x)
    (hf : ∀ a, x = .ok a → Composed P (f a)) : Composed P ((liftM x : Run α) >>= f) := by
  cases x with
  | error e => exact throw (h e rfl)
  | ok a => exact hf a rfl

/-- An operation for every element is composed of what each of them is. -/
lemma forM {f : β → Run PUnit} (xs : List β) (hf : ∀ b ∈ xs, Composed P (f b)) :
    Composed P (xs.forM f) := by
  induction xs with
  | nil => exact .pure _
  | cons b rest ih =>
    exact .bind (hf b List.mem_cons_self) fun _ => ih fun c mem => hf c (List.mem_cons_of_mem _ mem)

/-- What an operation is composed of may be widened. -/
lemma mono (h : ∀ args, P args → Q args) (hx : Composed P x) : Composed Q x := by
  induction hx with
  | lift ordinary => exact .lift ordinary
  | run asked => exact .run (h _ asked)
  | bind _ _ ih ih' => exact .bind ih ih'
  | attempt _ _ ih ih' => exact .attempt ih ih'

/-- A composed operation fails with no interruption. -/
lemma ordinary (h : Composed P x) : Fails (fun e => e.isOrdinary = true) x := by
  induction h with
  | lift ordinary => exact .lift ordinary
  | @run args _ =>
    intro σ
    obtain ⟨reply, eq, -⟩ := run_run args σ
    exact eq ▸ reply.result_ordinary args
  | bind _ _ ih ih' => exact .bind ih ih'
  | attempt _ _ ih ih' => exact .attempt fun σ => ih' _ (ih σ)

/-- A composed operation asks for what it is composed of. -/
lemma asks (h : Composed P x) : Asks P x := by
  induction h with
  | lift => exact .lift _
  | run asked => exact .run asked
  | bind _ _ ih ih' => exact .bind ih ih'
  | @attempt _ _ x f hx _ ih ih' =>
    intro σ
    obtain ⟨events, grew⟩ := ih σ
    obtain ⟨more, grew'⟩ := ih' (x σ).1 (hx.ordinary σ) (x σ).2
    exact ⟨events ++ more, grew.trans grew'⟩

end Composed

end ProxyFleet.Docker
