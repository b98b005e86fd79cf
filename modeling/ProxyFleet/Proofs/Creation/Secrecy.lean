import ProxyFleet.Proofs.Creation.Secrets
import ProxyFleet.Proofs.Creation.Success
import ProxyFleet.Proofs.Docker.Parallel

/-!
# Creations with different secrets

The passphrase of an identity reaches docker as an environment variable of the identity container
and nowhere else. Two creations whose templates differ at most in secrets run side by side: they ask
docker for the same, up to that variable, and end alike.
-/

namespace ProxyFleet.Creation
open Docker

/-- Whether arguments create the same container but for the passphrase in its environment. -/
inductive PassphraseAlike : List Text → List Text → Prop where
  | mk (front back : List Text) (x y : Text) : PassphraseAlike
    (("create" : Text) :: (front ++ ("--env" : Text) :: ("MYST_IDENTITY_PASS=" ++ x) :: back))
    (("create" : Text) :: (front ++ ("--env" : Text) :: ("MYST_IDENTITY_PASS=" ++ y) :: back))

/-- Whether two events are the same, or create identity containers that differ in the passphrase. -/
inductive EventAlike (service : Service) : Event → Event → Prop where
  | same (e : Event) : EventAlike service e e
  | create {binary args args' reply} :
    service = .identity → PassphraseAlike args args' →
    EventAlike service (.call (binary :: args) reply) (.call (binary :: args') reply)

/-- Whether two failures are of the same kind and tell the same, whichever of two passphrases the
command that failed was given. -/
inductive FailureAlike : Failure → Failure → Prop where
  | same (e : Failure) : FailureAlike e e
  | command {args args' status err out} :
    PassphraseAlike args args' →
    FailureAlike (.command args status err out) (.command args' status err out)
  | repository {e e' created container} :
    FailureAlike e e' →
    FailureAlike (.repository e created container) (.repository e' created container)
  | combined {e e' others} :
    FailureAlike e e' → FailureAlike (.combined e others) (.combined e' others)

variable {s : Settings} {service : Service} {o o' : Order} {g : Groundwork} {id container : Text}
  {a : Allocation} {r r' : Runner} {e e' : Failure} {σ σ' : Session}

namespace FailureAlike

/-- Alike failures have the same message. -/
lemma message (h : FailureAlike e e') : e.message = e'.message := by
  induction h with
  | same => rfl
  | command alike =>
    obtain ⟨front, back, x, y⟩ := alike
    cases front <;> rfl
  | repository _ ih => exact congrArg (("Repository error: " : Text) ++ ·) ih
  | combined _ ih => exact ih

/-- Both are collisions or neither is. -/
lemma isCollision (h : FailureAlike e e') : e.isCollision = e'.isCollision := by
  cases h <;> rfl

/-- Both are collisions with a port or neither is. -/
lemma isPortCollision (h : FailureAlike e e') : e.isPortCollision = e'.isPortCollision := by
  cases h <;> rfl

/-- Both are failures of the fleet or neither is. -/
lemma isFleet (h : FailureAlike e e') : e.isFleet = e'.isFleet := by
  cases h <;> rfl

/-- Creations end with alike failures when their last attempts do. -/
lemma final (h : FailureAlike e e') (service : Service) (port : Option Int)
    (container : Option Text) :
    FailureAlike (finalFailure service port container e)
      (finalFailure service port container e') := by
  unfold finalFailure
  rw [← h.isPortCollision, ← h.isFleet]
  split
  · exact .same _
  · split
    · exact h
    · exact .repository h

end FailureAlike

/-! ## Containers -/

/-- Containers that differ in a passphrase have arguments that differ in it alone. -/
lemma passphraseAlike_toArgs (spec : Spec) (setting : Text × Text) (x y : Text) :
    PassphraseAlike
      { spec with env := [setting, ("MYST_IDENTITY_PASS", x)] }.toArgs
      { spec with env := [setting, ("MYST_IDENTITY_PASS", y)] }.toArgs := by
  let front := flagged "--name" [spec.name] ++ flagged "--label" (spec.labels.map assignment) ++
    [("--env" : Text), assignment setting]
  let back := optional "--network" spec.network ++ optional "--ip" spec.address ++
    flagged "-v" spec.binds ++ flagged "-p" (spec.ports.map published) ++
    optional "--restart" spec.restart ++ flagged "--cap-add" spec.capabilities ++
    flagged "--device" spec.devices ++ Spec.logArgs spec.logOptions ++ [spec.image] ++ spec.command
  have alike : PassphraseAlike
      ("create" :: (front ++ ("--env" : Text) :: assignment ("MYST_IDENTITY_PASS", x) :: back))
      ("create" :: (front ++ ("--env" : Text) :: assignment ("MYST_IDENTITY_PASS", y) :: back)) :=
    .mk front back x y
  simpa [Spec.toArgs, flagged, front, back] using alike

/-- Alike orders give their containers the same labels. -/
lemma OrderAlike.containerLabels (h : OrderAlike o o') (s : Settings) (service : Service)
    (id : Text) : s.containerLabels service o id = s.containerLabels service o' id := by
  unfold Settings.containerLabels
  rw [h.ownerLabels]

/-- Alike orders have the same text for a field that is not secret. -/
lemma OrderAlike.providerText (h : OrderAlike o o') {name : Text} (plain : name ∉ secretFields) :
    o.providerText name = o'.providerText name := by
  have provider := h.provider
  unfold Order.providerText
  generalize o.provider = m, o'.provider = m' at provider
  cases provider with
  | none => rfl
  | some alike => exact alike.text plain

/-- Alike orders make the same container, up to the passphrase of an identity. -/
lemma OrderAlike.spec (h : OrderAlike o o') (s : Settings) (fits : g.Fits service) (id : Text)
    (a : Allocation) : specOf s o g id a = specOf s o' g id a ∨ service = .identity ∧
      PassphraseAlike (specOf s o g id a).toArgs (specOf s o' g id a).toArgs := by
  cases service <;> cases g <;> try exact fits.elim
  case identity.keystore volume =>
    refine .inr ⟨rfl, ?_⟩
    have eq : identitySpec s o' volume id a = { identitySpec s o volume id a with
        env := [("MYST_IDENTITY", o.identity.text "identity"),
          ("MYST_IDENTITY_PASS", o'.identity.text "passphrase")] } := by
      unfold identitySpec
      rw [h.containerLabels, h.identity.text (by decide)]
    have own : specOf s o (.keystore volume) id a = { identitySpec s o volume id a with
        env := [("MYST_IDENTITY", o.identity.text "identity"),
          ("MYST_IDENTITY_PASS", o.identity.text "passphrase")] } := rfl
    rw [own, specOf, eq]
    exact passphraseAlike_toArgs _ _ _ _
  case connector.node node =>
    refine .inl ?_
    show connectorSpec s o node id a = connectorSpec s o' node id a
    unfold connectorSpec
    rw [h.containerLabels, h.identity.text (by decide), h.providerText (by decide),
      h.providerText (by decide)]
  case relay.address target =>
    refine .inl ?_
    show relaySpec s o target id a = relaySpec s o' target id a
    unfold relaySpec
    rw [h.containerLabels]

/-- Alike orders have alike runners. -/
lemma OrderAlike.runner (h : OrderAlike o o') (s : Settings) (service : Service)
    (id container : Text) (a : Allocation) : RunnerAlike (runnerOf s service o id container a)
      (runnerOf s service o' id container a) := by
  have placed : placedVolumes s o'.template = placedVolumes s o.template := by
    rw [h.template.others]
    rfl
  refine ⟨?_, ?_⟩
  · cases service with
    | identity =>
      unfold runnerOf
      rw [placed]
      rfl
    | connector | relay => rfl
  · cases service <;> exact h.template.label

/-! ## Runs -/

/-- What two attempts of alike orders come to. -/
structure OutcomeAlike (t t' : Outcome) : Prop where
  port : t.port = t'.port
  container : t.container = t'.container
  result : Corresponds FailureAlike RunnerAlike t.result t'.result

/-- Every outcome is alike to itself. -/
lemma FailureAlike.ofSame {α : Type} (x : Except Failure α) : Corresponds FailureAlike Eq x x :=
  (Corresponds.refl x).mono (fun e e' (eq : e = e') => eq ▸ .same e) fun _ _ eq => eq

/-- Calls that differ in a passphrase fail alike when they are answered alike. -/
lemma PassphraseAlike.result {args args' : List Text} (h : PassphraseAlike args args')
    (reply : Reply) : Corresponds FailureAlike Eq (reply.result args) (reply.result args') := by
  unfold Reply.result
  split
  · exact FailureAlike.ofSame _
  · refine (FailureAlike.ofSame _).bind fun err _ eq => ?_
    cases eq
    refine (FailureAlike.ofSame _).bind fun out _ eq => ?_
    cases eq
    exact .error (.command h)

/-- Whatever a container is created with, the answer is taken from the same place. -/
lemma answerKey_toArgs (spec : Spec) : answerKey spec.toArgs = "create" := by
  obtain ⟨rest, eq⟩ := spec.exists_toArgs
  have other : ("create" : Text) ≠ "volume" := by decide
  simp only [eq, answerKey, other, if_false]

/-- Containers whose arguments differ in a passphrase are created in parallel. -/
lemma create_parallel {spec spec' : Spec}
    (h : spec = spec' ∨ service = .identity ∧ PassphraseAlike spec.toArgs spec'.toArgs) :
    Parallel (EventAlike service) FailureAlike Eq (create spec) (create spec') := by
  have asked : Parallel (EventAlike service) FailureAlike Eq (run spec.toArgs)
      (run spec'.toArgs) := by
    have key := (answerKey_toArgs spec).trans (answerKey_toArgs spec').symm
    rcases h with rfl | ⟨identity, alike⟩
    · exact .run key (fun _ _ => .same _) fun _ => FailureAlike.ofSame _
    · exact .run key (fun _ _ => .create identity alike) alike.result
  refine asked.bind ?_
  rintro out _ rfl
  exact .pure rfl

/-- Attempts of alike orders run in parallel. -/
lemma attemptOnce_parallel {E : Failure → Failure → Prop} (h : OrderAlike o o')
    (fits : g.Fits service) (failed : List Int) :
    Parallel (EventAlike service) E OutcomeAlike (attemptOnce s service o g failed)
      (attemptOnce s service o' g failed) := by
  unfold attemptOnce
  refine .bind .newId ?_
  rintro id _ rfl
  rw [← h.prepareAttempt]
  refine .bind (.attempt ((prepareAttempt_composed s service o failed).parallel .same)) ?_
  rintro _ _ (⟨eq⟩ | ⟨eq⟩) <;> cases eq
  case error e => exact .pure ⟨rfl, rfl, .error (.same e)⟩
  case ok a =>
    refine .bind (.attempt (create_parallel (h.spec s fits id a))) ?_
    rintro _ _ (⟨eq⟩ | ⟨alike⟩)
    · cases eq
      rename_i container
      refine .bind (.attempt ((start_composed container).parallel .same)) ?_
      rintro _ _ (⟨eq⟩ | ⟨eq⟩) <;> cases eq
      · exact .pure ⟨rfl, rfl, .ok (h.runner s service id container a)⟩
      · exact .pure ⟨rfl, rfl, .error (.same _)⟩
    · exact .pure ⟨rfl, rfl, .error alike⟩

/-- What they left behind is removed in parallel. -/
lemma cleanUp_parallel {E : Failure → Failure → Prop} (container : Option Text) :
    Parallel (EventAlike service) E (Corresponds Eq Eq) (cleanUp container)
      (cleanUp container) := by
  unfold cleanUp
  split
  · split
    · exact .pure (.ok rfl)
    · exact .attempt ((remove_composed _ _ _).parallel .same)
  · exact .pure (.ok rfl)

/-- So all attempts run in parallel. -/
lemma makeAttempts_parallel (h : OrderAlike o o') (fits : g.Fits service) (retries : Nat)
    (failed : List Int) :
    Parallel (EventAlike service) FailureAlike RunnerAlike
      (makeAttempts s service o g retries failed) (makeAttempts s service o' g retries failed) := by
  induction retries using Nat.strongRecOn generalizing failed with
  | ind retries ih =>
    unfold makeAttempts
    refine .bind (attemptOnce_parallel h fits failed) ?_
    rintro ⟨port, container, result⟩ ⟨_, _, _⟩ ⟨rfl, rfl, alike⟩
    cases alike with
    | ok alike => exact .pure alike
    | @error e e' alike =>
      have final := alike.final service port container
      have retryable : isRetryable service o e = isRetryable service o' e' := by
        unfold isRetryable
        rw [h.fixedPort, alike.isPortCollision, alike.isCollision]
      refine .bind (cleanUp_parallel container) ?_
      rintro _ _ (⟨eq⟩ | ⟨eq⟩) <;> cases eq
      · cases retries with
        | zero => exact .throw final
        | succ retries =>
          dsimp only
          rw [← retryable]
          split
          · refine .bind (.pause .same) fun _ _ _ => ?_
            have ports : failedPorts o port failed = failedPorts o' port failed := by
              unfold failedPorts
              rw [h.fixedPort]
            rw [ports]
            exact ih retries (Nat.lt_succ_self _) _
          · exact .throw final
      · exact .throw (.combined final)

/-- So creations from alike templates run in parallel. -/
lemma createRunner_parallel (h : RunnerAlike r r') :
    Parallel (EventAlike service) FailureAlike RunnerAlike (createRunner s service r)
      (createRunner s service r') := by
  have order : Corresponds FailureAlike OrderAlike (Order.ofTemplate service r)
      (Order.ofTemplate service r') :=
    (h.order service).mono (fun e e' (eq : e = e') => eq ▸ .same e) fun _ _ alike => alike
  refine .bind (.lift order) fun o o' alike => ?_
  rw [← alike.layGroundwork]
  have same : Parallel (EventAlike service) Eq Eq (layGroundwork s service o)
      (layGroundwork s service o) := (admits_preparing.layGroundwork s service o).parallel .same
  have ground := same.yields (layGroundwork_yields s service o)
  refine .bind (.attempt ground) fun x y laid => ?_
  refine .bind (.lift (R := fun a b => a = b ∧ Groundwork.Fits service a) ?_) ?_
  · cases laid with
    | ok laid => exact .ok laid
    | error eq => exact .error (eq ▸ .same _)
  · rintro g _ ⟨rfl, fits⟩
    exact makeAttempts_parallel alike fits _ _

/-- What two creations that differ at most in secrets have in common: they both give runners that
are the same but for the label, or both fail for the same reason; and they ask docker for the same,
up to the passphrase of an identity. -/
structure CreationAlike (service : Service) (x y : Except Failure Runner × Session) : Prop where
  outcome : Corresponds (fun e e' => FailureAlike e e' ∧ e.message = e'.message)
    (fun r r' => r' = { r with label := r'.label }) x.1 y.1
  log : List.Forall₂ (EventAlike service) x.2.log y.2.log
  plain : service ≠ .identity → x.2.log = y.2.log

/-- But for identities the calls of both are the same. -/
lemma EventAlike.eq {e e' : Event} (h : EventAlike service e e') (plain : service ≠ .identity) :
    e = e' := by
  cases h with
  | same => rfl
  | create identity => exact absurd identity plain

/-- Creations from alike templates are alike. -/
lemma createRunner_alike (h : RunnerAlike r r') (σ : Session) :
    CreationAlike service (createRunner s service r σ) (createRunner s service r' σ) := by
  have same : σ.Alike (EventAlike service) σ :=
    ⟨rfl, rfl, rfl, List.forall₂_same.mpr fun e _ => .same e⟩
  obtain ⟨outcomes, sessions⟩ := createRunner_parallel h σ σ same
  refine ⟨outcomes.mono (fun _ _ alike => ⟨alike, alike.message⟩) fun _ _ alike => alike.others,
    sessions.log, fun plain => ?_⟩
  exact List.forall₂_eq_eq_eq ▸ sessions.log.imp fun _ _ alike => alike.eq plain

end ProxyFleet.Creation
