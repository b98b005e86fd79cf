import ProxyFleet.Creation.Attempts
import ProxyFleet.Proofs.Label.Reading

/-!
# Templates with different secrets

Two labels that differ at most in secret texts are read alike: both are refused for the same reason,
or their models differ at most in secret fields. Whatever is written of such models without their
secrets is the same, and so is every decision that an order takes.
-/

namespace ProxyFleet.Creation

/-- Whether two field values of a label are the same, or two texts of a secret field. -/
def FieldAlike (q q' : Text × Json) : Prop :=
  q = q' ∨ q.1 ∈ secretFields ∧ q.1 = q'.1 ∧ ∃ x y, q.2 = .str x ∧ q'.2 = .str y

/-- Whether two label entries are the same but for the texts of secret fields. -/
structure EntryAlike (e e' : Entry) : Prop where
  tag : e.tag = e'.tag
  fields : List.Forall₂ FieldAlike e.fields e'.fields

/-- Whether two labels differ at most in the texts of secret fields. -/
def LabelAlike (l l' : Label) : Prop :=
  List.Forall₂ (Option.Rel EntryAlike) l.entries l'.entries

/-- Whether two settings under one name are the same, unless the field is secret. -/
structure SettingAlike (q q' : Text × Setting) : Prop where
  name : q.1 = q'.1
  value : q.1 ∉ secretFields → q.2 = q'.2

/-- Whether two models of one owner have the same settings but in secret fields. -/
structure ModelAlike (m m' : Model) : Prop where
  owner : m.owner = m'.owner
  supplied : List.Forall₂ SettingAlike m.supplied m'.supplied

variable {given given' : List (Text × Json)} {l l' : Label} {m m' : Model} {ms ms' : List Model}
  {name p : Text} {excluded : List Text}

/-! ## Reading -/

/-- What alike entries have under a key is the same unless the key is secret. -/
lemma get?_fieldAlike (h : List.Forall₂ FieldAlike given given') (key : Text) :
    Option.Rel (fun v w => v = w ∨ key ∈ secretFields ∧ ∃ x y, v = .str x ∧ w = .str y)
      (Keyed.get? key given) (Keyed.get? key given') := by
  induction h with
  | nil => exact .none
  | @cons q q' rest rest' related _ ih =>
    have same : q.1 = q'.1 := by
      rcases related with rfl | ⟨-, same, -⟩
      · rfl
      · exact same
    unfold Keyed.get?
    by_cases found : q.1 = key
    · rw [if_pos found, if_pos (same ▸ found)]
      refine .some ?_
      rcases related with rfl | ⟨secret, -, texts⟩
      · exact .inl rfl
      · exact .inr ⟨found ▸ secret, texts⟩
    · rw [if_neg found, if_neg (same ▸ found)]
      exact ih

/-- Secret fields are texts, and every text can be read. -/
lemma readFields_alike (h : List.Forall₂ FieldAlike given given') {fs : List Field}
    (texts : ∀ f ∈ fs, f.name ∈ secretFields → f.kind = .text) :
    Corresponds Eq (List.Forall₂ SettingAlike) (Entry.readFields given fs)
      (Entry.readFields given' fs) := by
  induction fs with
  | nil => exact .ok .nil
  | cons f rest ih =>
    have ih := ih fun f' mem => texts f' (List.mem_cons_of_mem _ mem)
    have values := get?_fieldAlike h f.name
    unfold Entry.readFields
    generalize Keyed.get? f.name given = v, Keyed.get? f.name given' = w at values
    cases values with
    | none => exact ih
    | @some j j' related =>
      rcases related with rfl | ⟨secret, x, y, rfl, rfl⟩
      · dsimp only
        rcases f.kind.read? j with e | _ | setting
        · exact .error rfl
        · exact .error rfl
        · exact ih.map fun _ _ others => .cons ⟨rfl, fun _ => rfl⟩ others
      · rw [texts f List.mem_cons_self secret]
        exact ih.map fun _ _ others => .cons ⟨rfl, fun plain => absurd secret plain⟩ others

/-- Alike labels are read as alike models, or refused for the same reason. -/
lemma read_alike (h : LabelAlike l l') :
    Corresponds Eq (List.Forall₂ ModelAlike) l.read l'.read := by
  have texts : ∀ o : Owner, ∀ f ∈ o.fields, f.name ∈ secretFields → f.kind = .text := by
    intro o
    cases o <;> decide
  have entry : ∀ {e e'}, Option.Rel EntryAlike e e' →
      Corresponds Eq ModelAlike (Entry.read e) (Entry.read e') := by
    rintro _ _ (⟨⟨tag, fields⟩⟩ | _)
    · unfold Entry.read
      dsimp only
      rw [← tag]
      split
      · exact .error rfl
      · rename_i owner _
        exact (readFields_alike fields (texts owner)).map fun _ _ supplied => ⟨rfl, supplied⟩
    · exact .error rfl
  have all : ∀ {es es'}, List.Forall₂ (Option.Rel EntryAlike) es es' →
      Corresponds Eq (List.Forall₂ ModelAlike) (Entry.readAll es) (Entry.readAll es') := by
    intro es es' related
    induction related with
    | nil => exact .ok .nil
    | cons first _ ih =>
      exact (entry first).bind fun _ _ alike => ih.bind fun _ _ others => .pure (.cons alike others)
  unfold Label.read
  unfold LabelAlike at h
  generalize l.entries = es, l'.entries = es' at h
  cases h with
  | nil => exact .error rfl
  | cons first others => exact all (.cons first others)

/-! ## Models -/

namespace ModelAlike

/-- What alike models were supplied is the same but for secret fields. -/
lemma get?_supplied (h : ModelAlike m m') (name : Text) :
    Option.Rel (fun x y => name ∉ secretFields → x = y)
      (Keyed.get? name m.supplied) (Keyed.get? name m'.supplied) := by
  have supplied := h.supplied
  generalize m.supplied = qs, m'.supplied = qs' at supplied ⊢
  induction supplied with
  | nil => exact .none
  | @cons q q' rest rest' alike _ ih =>
    unfold Keyed.get?
    by_cases found : q.1 = name
    · rw [if_pos found, if_pos (alike.name ▸ found)]
      exact .some fun plain => alike.value (found ▸ plain)
    · rw [if_neg found, if_neg (alike.name ▸ found)]
      exact ih

/-- Secrets do not count in what is missing. -/
lemma missing (h : ModelAlike m m') (names : List Text) : m.missing names = m'.missing names := by
  have has : ∀ name, Keyed.has name m.supplied = Keyed.has name m'.supplied := by
    intro name
    have values := h.get?_supplied name
    unfold Keyed.has
    generalize Keyed.get? name m.supplied = x, Keyed.get? name m'.supplied = y at values
    cases values <;> rfl
  have default : m.isDefault = m'.isDefault := by
    funext name
    simp only [Model.isDefault, Model.defaults, has, h.owner]
  rw [Model.missing, default, Model.missing]

/-- Alike models have the same text for a field that is not secret. -/
lemma text (h : ModelAlike m m') (plain : name ∉ secretFields) : m.text name = m'.text name := by
  have same : ∀ fs : List Field,
      Keyed.get? name (fs.map fun f => (f.name, (Keyed.get? f.name m.supplied).getD f.initial)) =
        Keyed.get? name
          (fs.map fun f => (f.name, (Keyed.get? f.name m'.supplied).getD f.initial)) := by
    intro fs
    induction fs with
    | nil => rfl
    | cons f rest ih =>
      simp only [List.map_cons, Keyed.get?]
      by_cases found : f.name = name
      · have values := h.get?_supplied name
        rw [if_pos found, if_pos found, found]
        generalize Keyed.get? name m.supplied = x, Keyed.get? name m'.supplied = y at values
        cases values with
        | none => rfl
        | some eq => rw [eq plain]
      · rw [if_neg found, if_neg found, ih]
  unfold Model.text Model.settings
  rw [← h.owner, same]

/-- What is left of two models without their secrets is the same. -/
lemma kept (h : ModelAlike m m') (hidden : secretFields ⊆ excluded) :
    (m.supplied.filter fun q => !excluded.contains q.1) =
      m'.supplied.filter fun q => !excluded.contains q.1 := by
  have supplied := h.supplied
  generalize m.supplied = qs, m'.supplied = qs' at supplied
  induction supplied with
  | nil => rfl
  | @cons q q' rest rest' alike _ ih =>
    rw [List.filter_cons, List.filter_cons, ← alike.name]
    split
    case isTrue kept =>
      have plain : q.1 ∉ secretFields := fun secret => by simp [hidden secret] at kept
      have same : q = q' := Prod.ext alike.name (alike.value plain)
      rw [ih, same]
    case isFalse => exact ih

/-- Alike models have the same flat labels without the secret fields. -/
lemma flat (h : ModelAlike m m') (hidden : secretFields ⊆ excluded) (p : Text) :
    m.flat p excluded = m'.flat p excluded := by
  rw [Model.flat, h.kept hidden, h.owner, Model.flat]

/-- Alike models are written as the same flat labels without them. -/
lemma write (h : ModelAlike m m') (hidden : secretFields ⊆ excluded) (p : Text) :
    m.write p excluded = m'.write p excluded := by
  rw [Model.write, h.kept hidden, h.owner, Model.write]

end ModelAlike

/-- Of alike models those of an owner are alike. -/
lemma find_alike (h : List.Forall₂ ModelAlike ms ms') (owner : Owner) :
    Corresponds Eq ModelAlike (Model.find ms owner) (Model.find ms' owner) := by
  have found : Option.Rel ModelAlike (ms.find? fun m => m.owner = owner)
      (ms'.find? fun m => m.owner = owner) := by
    induction h with
    | nil => exact .none
    | @cons m m' rest rest' alike _ ih =>
      by_cases eq : m.owner = owner
      · rw [List.find?_cons_of_pos (by simpa using eq),
          List.find?_cons_of_pos (by simpa [← alike.owner] using eq)]
        exact .some alike
      · rw [List.find?_cons_of_neg (by simpa using eq),
          List.find?_cons_of_neg (by simpa [← alike.owner] using eq)]
        exact ih
  unfold Model.find
  generalize (ms.find? fun m => m.owner = owner) = x,
    (ms'.find? fun m => m.owner = owner) = y at found
  cases found with
  | none => exact .error rfl
  | some alike => exact .ok alike

/-- Lists of alike models have the same flat labels without the secret fields. -/
lemma flatAll_alike (h : List.Forall₂ ModelAlike ms ms') (hidden : secretFields ⊆ excluded)
    (p : Text) : Model.flatAll p excluded ms = Model.flatAll p excluded ms' := by
  unfold Model.flatAll
  generalize ([] : List (Text × Text)) = acc
  induction h generalizing acc with
  | nil => rfl
  | cons alike _ ih => rw [List.foldl_cons, List.foldl_cons, alike.flat hidden, ih]

/-- They are written as the same flat labels. -/
lemma writeAll_alike (h : List.Forall₂ ModelAlike ms ms') (hidden : secretFields ⊆ excluded)
    (p : Text) : Model.writeAll p excluded ms = Model.writeAll p excluded ms' := by
  unfold Model.writeAll
  generalize ([] : List (Text × Text)) = acc
  induction h generalizing acc with
  | nil => rfl
  | cons alike _ ih => simp only [List.foldlM_cons, alike.write hidden, ih]

/-- So are the first ones of an owner. -/
lemma writeOf_alike (h : List.Forall₂ ModelAlike ms ms') (hidden : secretFields ⊆ excluded)
    (p : Text) (owner : Owner) :
    Model.writeOf p excluded ms owner = Model.writeOf p excluded ms' owner := by
  have alike : Corresponds Eq Eq (Model.writeOf p excluded ms owner)
      (Model.writeOf p excluded ms' owner) := by
    refine (find_alike h owner).bind fun _ _ alike => ?_
    rw [alike.write hidden p]
    exact .refl _
  exact alike.eq

/-! ## Orders -/

/-- Whether two runners differ at most in the secrets of their labels. -/
structure RunnerAlike (r r' : Runner) : Prop where
  others : r' = { r with label := r'.label }
  label : LabelAlike r.label r'.label

/-- Whether two orders are the same but for the texts of secret fields. -/
structure OrderAlike (o o' : Order) : Prop where
  template : RunnerAlike o.template o'.template
  models : List.Forall₂ ModelAlike o.models o'.models
  identity : ModelAlike o.identity o'.identity
  provider : Option.Rel ModelAlike o.provider o'.provider
  fixedPort : o.fixedPort = o'.fixedPort

variable {r r' : Runner} {o o' : Order}

/-- Alike models lack the same fields. -/
lemma requireFields_alike (h : ModelAlike m m') (names : List Text) :
    Corresponds Eq Eq (requireFields m names) (requireFields m' names) := by
  unfold requireFields
  rw [h.missing]
  exact .refl _

/-- Alike templates have the same keystore. -/
lemma RunnerAlike.keystore (h : RunnerAlike r r') : r'.keystore? = r.keystore? := by
  rw [h.others]
  rfl

/-- Alike templates make alike orders. -/
lemma RunnerAlike.order (h : RunnerAlike r r') (service : Service) :
    Corresponds Eq OrderAlike (Order.ofTemplate service r) (Order.ofTemplate service r') := by
  refine (read_alike h.label).bind fun models models' alike => ?_
  cases service with
  | identity =>
    refine (find_alike alike _).bind fun identity identity' same => ?_
    refine (requireFields_alike same _).bind fun _ _ _ => ?_
    rw [h.keystore]
    split
    · exact .error rfl
    · exact .pure ⟨h, alike, same, .none, rfl⟩
  | connector =>
    refine (find_alike alike _).bind fun identity identity' same => ?_
    refine (requireFields_alike same _).bind fun _ _ _ => ?_
    refine (find_alike alike _).bind fun provider provider' same' => ?_
    refine (requireFields_alike same' _).bind fun _ _ _ => ?_
    rw [same'.text (by decide)]
    split
    · exact .error rfl
    · exact .pure ⟨h, alike, same, .some same', rfl⟩
  | relay =>
    refine (find_alike alike _).bind fun identity identity' same => ?_
    refine (requireFields_alike same _).bind fun _ _ _ => ?_
    refine (find_alike alike _).bind fun provider provider' same' => ?_
    refine (requireFields_alike same' _).bind fun _ _ _ => ?_
    refine (find_alike alike _).bind fun listener listener' same'' => ?_
    refine (requireFields_alike same'' _).bind fun _ _ _ => ?_
    refine .pure ⟨h, alike, same, .some same', ?_⟩
    rw [h.others]

namespace OrderAlike

open Docker

variable (h : OrderAlike o o') (s : Settings) (service : Service)

include h

/-- Secrets are not among the labels of an order. -/
lemma ownerLabels : s.ownerLabels o = s.ownerLabels o' :=
  flatAll_alike h.models (List.Subset.refl _) _

/-- Alike orders lay the same groundwork. -/
lemma layGroundwork : layGroundwork s service o = layGroundwork s service o' := by
  have hidden : secretFields ⊆ "identity" :: secretFields := List.subset_cons_self _ _
  have node : findNode s o = findNode s o' := by
    unfold findNode
    rw [writeOf_alike h.models hidden]
  cases service with
  | identity =>
    unfold Creation.layGroundwork layKeystore Settings.keystoreVolume
    simp only
    rw [h.identity.text (by decide), writeOf_alike h.models (List.Subset.refl _),
      h.template.keystore]
  | connector =>
    unfold Creation.layGroundwork
    simp only
    rw [node]
  | relay =>
    unfold Creation.layGroundwork findAddress
    simp only
    rw [node]

/-- Alike orders prepare their attempts the same way. -/
lemma prepareAttempt (failed : List Int) :
    prepareAttempt s service o failed = prepareAttempt s service o' failed := by
  unfold Creation.prepareAttempt removeStale allocate choosePort
  rw [writeAll_alike h.models (List.Subset.refl _), h.fixedPort]

end OrderAlike

end ProxyFleet.Creation
