import Mathlib.Tactic.Common
import ProxyFleet.Docker.Session
import ProxyFleet.Proofs.Outcome

/-!
# The log of a session

An operation only ever adds to the log of its session. `Session.Grew` says what one session has that
an earlier one had not: calls of the docker binary whose arguments satisfy a predicate, nothing else
being touched but the answers that are left. `Asks` says the same of an operation, whatever session
it is run in, and is closed under the ways in which operations are put together.
-/

namespace ProxyFleet.Docker

variable {α β : Type} {P Q : List Text → Prop}

/-- Whether an event is a call of the binary with arguments that satisfy a predicate. -/
def Event.Asks (binary : Text) (P : List Text → Prop) : Event → Prop
  | .call argv _ => ∃ args, argv = binary :: args ∧ P args
  | .pause => False

/-- A session to which calls with arguments that satisfy `P` have been added. -/
structure Session.Grew (P : List Text → Prop) (σ : Session) (events : List Event) (σ' : Session) :
    Prop where
  binary : σ'.binary = σ.binary
  issued : σ'.issued = σ.issued
  log : σ'.log = σ.log ++ events
  asks : ∀ e ∈ events, e.Asks σ.binary P

/-- Whether an operation adds nothing but calls with arguments that satisfy a predicate. -/
def Asks (P : List Text → Prop) (x : Run α) : Prop :=
  ∀ σ : Session, ∃ events, σ.Grew P events (x σ).2

/-- Whether an operation does so and the first of its calls has the given arguments. -/
def Begins (P : List Text → Prop) (args : List Text) (x : Run α) : Prop :=
  ∀ σ : Session, ∃ reply rest, σ.Grew P (.call (σ.binary :: args) reply :: rest) (x σ).2

/-- Arguments that start with one of the given commands. -/
def Commands (names : List Text) (args : List Text) : Prop := ∃ name ∈ names, args.head? = some name

/-- More commands are allowed. -/
lemma Commands.mono {names more : List Text} (h : names ⊆ more) (args : List Text)
    (c : Commands names args) : Commands more args := by
  obtain ⟨name, mem, e⟩ := c
  exact ⟨name, h mem, e⟩

/-- One of some commands is not a command that is not among them. -/
lemma Commands.not_of_not_mem {names : List Text} {name : Text} (h : name ∉ names)
    (asked : Commands names args) : ¬ Commands [name] args := by
  rintro ⟨_, mem, head⟩
  obtain ⟨_, known, head'⟩ := asked
  cases List.mem_singleton.mp mem
  cases head.symm.trans head'
  exact h known

/-- A call that satisfies a predicate satisfies a weaker one. -/
lemma Event.Asks.mono {binary : Text} {e : Event} (h : ∀ args, P args → Q args)
    (a : e.Asks binary P) : e.Asks binary Q := by
  cases e with
  | call argv reply =>
    obtain ⟨args, eq, p⟩ := a
    exact ⟨args, eq, h args p⟩
  | pause => exact a

namespace Session.Grew

variable {σ σ₁ σ₂ : Session} {events more : List Event}

/-- A session that is left as it is has grown by no events. -/
lemma refl (σ : Session) : σ.Grew P [] σ := ⟨rfl, rfl, by simp, nofun⟩

/-- Growth after growth is growth by the events of both. -/
lemma trans (h : σ.Grew P events σ₁) (h' : σ₁.Grew P more σ₂) : σ.Grew P (events ++ more) σ₂ := by
  refine ⟨h'.binary.trans h.binary, h'.issued.trans h.issued, ?_, ?_⟩
  · rw [h'.log, h.log, List.append_assoc]
  · intro e mem
    rcases List.mem_append.mp mem with mem | mem
    · exact h.asks e mem
    · exact h.binary ▸ h'.asks e mem

/-- A session that has grown by some calls has grown by calls of a wider kind. -/
lemma mono (h : ∀ args, P args → Q args) (g : σ.Grew P events σ₁) : σ.Grew Q events σ₁ :=
  ⟨g.binary, g.issued, g.log, fun e mem => (g.asks e mem).mono h⟩

end Session.Grew

/-! ## Running operations -/

/-- An attempted operation comes to its outcome, and leaves the session as the operation does. -/
@[simp] lemma run_attempt (x : Run α) (σ : Session) : attempt x σ = (.ok (x σ).1, (x σ).2) := rfl

/-- An operation whose result passes a check has given one. -/
lemma exists_of_any {ran : Except Failure α × Session} {p : α → Bool}
    (h : ran.1.toOption.any p = true) : ∃ a σ, ran = (.ok a, σ) ∧ p a = true := by
  obtain ⟨e | a, σ⟩ := ran
  · cases h
  · exact ⟨a, σ, rfl, h⟩

/-- The identifier that a session gives out next. -/
def Session.nextId (σ : Session) : Text := "runner-" ++ Text.numeral (σ.issued + 1)

/-- The session after one more id is taken. -/
def Session.numbered (σ : Session) : Session := { σ with issued := σ.issued + 1 }

/-- The session after a pause. -/
def Session.paused (σ : Session) : Session := { σ with log := σ.log ++ [.pause] }

/-- A new id is the next one of the session. -/
@[simp] lemma run_newId (σ : Session) : newId σ = (.ok σ.nextId, σ.numbered) := rfl

/-- A pause always comes to an end, and is logged. -/
@[simp] lemma run_pause (σ : Session) : pause σ = (.ok (), σ.paused) := rfl

/-- A reply amounts to an output exactly when the status is zero and the output is text. -/
lemma Reply.result_eq_ok {args : List Text} {reply : Reply} {out : Text} :
    reply.result args = .ok out ↔ reply.status = 0 ∧ decode reply.out = .ok out := by
  unfold Reply.result
  split
  case isTrue h => exact ⟨fun eq => ⟨h, eq⟩, fun eq => eq.2⟩
  case isFalse h =>
    refine ⟨fun eq => ?_, fun eq => absurd eq.1 h⟩
    obtain ⟨err, -, eq⟩ := bind_eq_ok.mp eq
    obtain ⟨_, -, eq⟩ := bind_eq_ok.mp eq
    cases eq

/-- A call adds itself to the log with its reply, and comes to what the reply says. -/
lemma run_run (args : List Text) (σ : Session) :
    ∃ reply, (run args σ).1 = reply.result args ∧
      σ.Grew (· = args) [.call (σ.binary :: args) reply] (run args σ).2 := by
  refine ⟨(ask args σ).1, rfl, rfl, rfl, rfl, ?_⟩
  intro e mem
  cases List.mem_singleton.mp mem
  exact ⟨args, rfl, rfl⟩

/-! ## What operations ask -/

namespace Asks

/-- What an operation asks for may be described by a weaker predicate. -/
lemma mono {x : Run α} (h : ∀ args, P args → Q args) (a : Asks P x) : Asks Q x := by
  intro σ
  obtain ⟨events, g⟩ := a σ
  exact ⟨events, g.mono h⟩

/-- A result that is there asks for nothing. -/
lemma pure (a : α) : Asks P (Pure.pure a : Run α) := fun σ => ⟨[], .refl σ⟩

/-- A failure that is there asks for nothing. -/
lemma throw (e : Failure) : Asks P (MonadExcept.throw e : Run α) := fun σ => ⟨[], .refl σ⟩

/-- An outcome that is there asks for nothing. -/
lemma lift (x : Except Failure α) : Asks P (liftM x : Run α) := fun σ => ⟨[], .refl σ⟩

/-- Two operations in a row ask for what each of them asks for. -/
lemma bind {x : Run α} {f : α → Run β} (hx : Asks P x) (hf : ∀ a, Asks P (f a)) :
    Asks P (x >>= f) := by
  intro σ
  obtain ⟨events, g⟩ := hx σ
  rw [run_bind]
  rcases e : x σ with ⟨_ | a, σ₁⟩
  · rw [e] at g
    exact ⟨events, g⟩
  · rw [e] at g
    obtain ⟨more, g'⟩ := hf a σ₁
    exact ⟨events ++ more, g.trans g'⟩

/-- What is done for each element asks only for what one of the elements asks for. -/
lemma forM {f : β → Run PUnit} (xs : List β) (hf : ∀ b ∈ xs, Asks P (f b)) :
    Asks P (xs.forM f) := by
  induction xs with
  | nil => exact .pure _
  | cons b rest ih =>
    exact .bind (hf b List.mem_cons_self) fun _ => ih fun c mem => hf c (List.mem_cons_of_mem _ mem)

/-- A call asks for itself. -/
lemma run {args : List Text} (h : P args) : Asks P (Docker.run args) := by
  intro σ
  obtain ⟨reply, -, g⟩ := run_run args σ
  refine ⟨_, g.mono ?_⟩
  rintro _ rfl
  exact h

end Asks

namespace Begins

variable {args : List Text}

/-- What an operation begins with may be followed by calls of a wider kind. -/
lemma mono {x : Run α} (h : ∀ args, P args → Q args) (b : Begins P args x) : Begins Q args x := by
  intro σ
  obtain ⟨reply, rest, g⟩ := b σ
  exact ⟨reply, rest, g.mono h⟩

/-- A call begins with itself. -/
lemma run (h : P args) : Begins P args (Docker.run args) := by
  intro σ
  obtain ⟨reply, -, g⟩ := run_run args σ
  refine ⟨reply, [], g.mono ?_⟩
  rintro _ rfl
  exact h

/-- An operation still begins with its first call when another follows it. -/
lemma bind {x : Run α} {f : α → Run β} (hx : Begins P args x) (hf : ∀ a, Asks P (f a)) :
    Begins P args (x >>= f) := by
  intro σ
  obtain ⟨reply, rest, g⟩ := hx σ
  rw [run_bind]
  rcases e : x σ with ⟨_ | a, σ₁⟩
  · rw [e] at g
    exact ⟨reply, rest, g⟩
  · rw [e] at g
    obtain ⟨more, g'⟩ := hf a σ₁
    exact ⟨reply, rest ++ more, g.trans g'⟩

/-- After a step that has given something, the operation goes on with that. -/
lemma lift_bind {x : Except Failure α} {a : α} {f : α → Run β} (h : x = .ok a)
    (hf : Begins P args (f a)) : Begins P args ((liftM x : Run α) >>= f) := by
  subst h
  exact hf

/-- An attempt goes on whatever it has come to. -/
lemma bind_attempt {x : Run α} {f : Except Failure α → Run β} (hx : Begins P args x)
    (hf : ∀ r, Asks P (f r)) : Begins P args (attempt x >>= f) := by
  intro σ
  obtain ⟨reply, rest, g⟩ := hx σ
  obtain ⟨more, g'⟩ := hf (x σ).1 (x σ).2
  exact ⟨reply, rest ++ more, g.trans g'⟩

end Begins

/-! ## What operations come to -/

/-- Whether every result that an operation comes to satisfies a predicate. -/
def Yields (R : α → Prop) (x : Run α) : Prop := ∀ σ a, (x σ).1 = .ok a → R a

namespace Yields

variable {R : α → Prop} {S : β → Prop}

/-- Every result is a result. -/
lemma any (x : Run α) : Yields (fun _ => True) x := fun _ _ _ => trivial

/-- A result that is there is what the operation comes to. -/
lemma pure {a : α} (h : R a) : Yields R (Pure.pure a : Run α) := by
  intro σ b eq
  cases eq
  exact h

/-- A failure comes to no result. -/
lemma throw (e : Failure) : Yields R (MonadExcept.throw e : Run α) := nofun

/-- An outcome that is there is what the operation comes to. -/
lemma lift {x : Except Failure α} (h : ∀ a, x = .ok a → R a) : Yields R (liftM x : Run α) :=
  fun _ a eq => h a eq

/-- The results of a sequence are those of its second part on results of the first. -/
lemma bind {x : Run α} {f : α → Run β} (hx : Yields R x) (hf : ∀ a, R a → Yields S (f a)) :
    Yields S (x >>= f) := by
  intro σ b eq
  rw [run_bind] at eq
  rcases e : x σ with ⟨_ | a, σ₁⟩
  · rw [e] at eq
    cases eq
  · rw [e] at eq
    exact hf a (hx σ a (by rw [e])) σ₁ b eq

end Yields

/-! ## How operations fail -/

/-- Whether every failure that an operation comes to satisfies a predicate. -/
def Fails (F : Failure → Prop) (x : Run α) : Prop := ∀ σ, FailsWith F (x σ).1

namespace Fails

variable {F : Failure → Prop}

/-- An outcome that is there fails as it does. -/
lemma lift {x : Except Failure α} (h : FailsWith F x) : Fails F (liftM x : Run α) := fun _ => h

/-- A sequence fails as its first part does or as the second does on some result. -/
lemma bind {x : Run α} {f : α → Run β} (hx : Fails F x) (hf : ∀ a, Fails F (f a)) :
    Fails F (x >>= f) := by
  intro σ
  have first := hx σ
  rw [run_bind]
  rcases ran : x σ with ⟨e | a, σ₁⟩
  · rw [ran] at first
    exact .error (first e rfl)
  · exact hf a σ₁

/-- After an attempt, what it has come to decides how the operation may fail. -/
lemma attempt {x : Run α} {f : Except Failure α → Run β} (hf : ∀ σ, Fails F (f (x σ).1)) :
    Fails F (Docker.attempt x >>= f) := fun σ => hf σ (x σ).2

end Fails

end ProxyFleet.Docker
