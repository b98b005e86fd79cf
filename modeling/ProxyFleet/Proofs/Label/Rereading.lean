import ProxyFleet.Proofs.Label.Scalar

/-!
# Labels are read again

The flat labels that are written of a label are read as models of the same owners in the same order,
and a field that was not left out of the writing has the setting that it had.
-/

namespace ProxyFleet

variable {p key : Text} {excluded : List Text} {f : Field} {m m' : Model} {ms ms' : List Model}

namespace Model

/-- Every key of a well-formed model is that of a field. -/
lemma WellFormed.exists_of_mem_flat (wf : m.WellFormed)
    (h : key ∈ Keyed.keys (m.flat p excluded)) :
    ∃ f ∈ m.owner.fields, key = fieldKey p m.owner f.name := by
  obtain ⟨⟨_, v⟩, mem, rfl⟩ := List.mem_map.mp h
  obtain ⟨q, supplied, -, eq, -⟩ := mem_flat.mp mem
  obtain ⟨f, known, name, -⟩ := wf.typed q supplied
  exact ⟨f, known, name ▸ eq⟩

/-- A value of a well-formed model is of the kind of its field. -/
lemma WellFormed.kind_of_get? (wf : m.WellFormed) (known : f ∈ m.owner.fields) {x : Setting}
    (h : Keyed.get? f.name m.supplied = some x) : x.kind = f.kind := by
  obtain ⟨f', known', name, kind⟩ := wf.typed _ (Keyed.mem_of_get? h)
  obtain rfl := Owner.field_unique known' known name
  exact kind.symm

/-- Models with distinct owners add their labels one model after another. -/
lemma flatAll_from_eq (wf : ∀ m ∈ ms, m.WellFormed) (distinct : (ms.map owner).Nodup)
    {acc : List (Text × Text)}
    (fresh : ∀ m ∈ ms, ∀ key ∈ Keyed.keys (m.flat p excluded), key ∉ Keyed.keys acc) :
    ms.foldl (fun acc m => Keyed.putAll acc (m.flat p excluded)) acc =
      acc ++ ms.flatMap (flat p excluded) := by
  induction ms generalizing acc with
  | nil => simp
  | cons m rest ih =>
    obtain ⟨other, distinct⟩ := List.nodup_cons.mp distinct
    have first := wf m List.mem_cons_self
    have wf : ∀ m' ∈ rest, m'.WellFormed := fun m' mem => wf m' (List.mem_cons_of_mem _ mem)
    have behind : ∀ m' ∈ rest, ∀ key ∈ Keyed.keys (m'.flat p excluded),
        key ∉ Keyed.keys (acc ++ m.flat p excluded) := by
      intro m' mem key written found
      rw [Keyed.keys, List.map_append, List.mem_append] at found
      rcases found with found | found
      · exact fresh m' (List.mem_cons_of_mem _ mem) key written found
      · -- a key tells its owner, and the owners are different
        obtain ⟨f, known, rfl⟩ := first.exists_of_mem_flat found
        obtain ⟨f', known', eq⟩ := (wf m' mem).exists_of_mem_flat written
        exact other ((fieldKey_inj known known' eq).1 ▸ List.mem_map_of_mem mem)
    rw [List.foldl_cons, Keyed.putAll_of_fresh (first.nodup_flat p excluded)
      (fresh m List.mem_cons_self), ih wf distinct behind, List.flatMap_cons, List.append_assoc]

/-- Models of different owners are written one behind the other. -/
lemma flatAll_eq_flatMap (wf : ∀ m ∈ ms, m.WellFormed) (distinct : (ms.map owner).Nodup) :
    flatAll p excluded ms = ms.flatMap (flat p excluded) :=
  flatAll_from_eq wf distinct fun _ _ _ _ => List.not_mem_nil

/-- The owners of what is written come in the order of the models. -/
lemma keys_regroup_flatMap (wf : ∀ m ∈ ms, m.WellFormed)
    (kept : ∀ m ∈ ms, ∃ q ∈ m.supplied, q.1 ∉ excluded)
    {groups : List (Owner × List (Text × Json))}
    (distinct : (Keyed.keys groups ++ ms.map owner).Nodup) :
    Keyed.keys ((shownLabels (ms.flatMap (flat p excluded))).foldl (regroupOne p) groups) =
      Keyed.keys groups ++ ms.map owner := by
  induction ms generalizing groups with
  | nil => simp [shownLabels]
  | cons m rest ih =>
    have each : ∀ label ∈ shownLabels (m.flat p excluded),
        ∃ name, readKey? p label.1 = some (m.owner, name) := by
      intro label shown
      obtain ⟨q, written, rfl⟩ := List.mem_map.mp shown
      obtain ⟨f, known, eq⟩ :=
        (wf m List.mem_cons_self).exists_of_mem_flat (List.mem_map_of_mem written)
      exact ⟨f.name, eq ▸ readKey?_fieldKey p known⟩
    have some : shownLabels (m.flat p excluded) ≠ [] := by
      obtain ⟨q, supplied, out⟩ := kept m List.mem_cons_self
      have written := mem_flat (p := p) |>.mpr ⟨q, supplied, out, rfl, rfl⟩
      exact List.ne_nil_of_mem (List.mem_map_of_mem written)
    have fresh : m.owner ∉ Keyed.keys groups := fun mem =>
      (List.nodup_append.mp distinct).2.2 _ mem _ List.mem_cons_self rfl
    have first := keys_regroup_of_not_mem each some fresh
    rw [List.flatMap_cons, shownLabels, List.map_append, List.foldl_append]
    have distinct : (Keyed.keys ((shownLabels (m.flat p excluded)).foldl (regroupOne p) groups) ++
        rest.map Model.owner).Nodup := by
      simpa [first] using distinct
    have others := ih (fun m' mem => wf m' (List.mem_cons_of_mem _ mem))
      (fun m' mem => kept m' (List.mem_cons_of_mem _ mem)) distinct
    rw [first, List.append_assoc] at others
    exact others

/-- The keys of well-formed models have their hyphens. -/
lemma hyphenated_flatAll (wf : ∀ m ∈ ms, m.WellFormed) (p : Text) (excluded : List Text) :
    Hyphenated p (Keyed.keys (flatAll p excluded ms)) := by
  intro x y _ _ _ single mem
  obtain ⟨v, written⟩ := Keyed.exists_get?_of_mem mem
  obtain ⟨m, -, f, known, -, -, -, eq, -⟩ := exists_of_get?_flatAll wf written
  obtain ⟨one, plain⟩ := Owner.hyphenated_plain known
  obtain ⟨-, rfl⟩ := append_point_inj eq single one
  exact plain

/-- Of models with different owners a field is written as its own model has it. -/
lemma get?_flatAll_of_distinct (wf : ∀ m ∈ ms, m.WellFormed) (distinct : (ms.map owner).Nodup)
    (mem : m ∈ ms) (known : f ∈ m.owner.fields) :
    Keyed.get? (fieldKey p m.owner f.name) (flatAll p excluded ms) =
      if f.name ∈ excluded then none else (Keyed.get? f.name m.supplied).map Setting.toText := by
  have sound : ∀ v, Keyed.get? (fieldKey p m.owner f.name) (flatAll p excluded ms) = some v →
      f.name ∉ excluded ∧ (Keyed.get? f.name m.supplied).map Setting.toText = some v := by
    intro v written
    obtain ⟨m₁, mem₁, f₁, known₁, x, out, -, key, supplied, rfl⟩ :=
      exists_of_get?_flatAll wf written
    obtain ⟨owner, name⟩ := fieldKey_inj known known₁ key
    obtain rfl := List.inj_on_of_nodup_map distinct mem mem₁ owner
    rw [name, supplied]
    exact ⟨out, rfl⟩
  rcases written : Keyed.get? (fieldKey p m.owner f.name) (flatAll p excluded ms) with _ | v
  · split
    case isTrue => rfl
    case isFalse out =>
      by_contra some
      have supplied : (Keyed.get? f.name m.supplied).isSome :=
        Option.isSome_iff_ne_none.mpr fun none => some (by rw [none]; rfl)
      have shown := isSome_get?_flatAll (p := p) wf mem known out supplied
      rw [written] at shown
      cases shown
  · obtain ⟨out, text⟩ := sound v written
    rw [if_neg out, text]

end Model

/-- Whether a model is another one less the excluded fields: of the same owner, with the same
settings but for the excluded fields, which are as if they had never been supplied. -/
structure Model.Restores (excluded : List Text) (m m' : Model) : Prop where
  owner : m'.owner = m.owner
  settings : m'.settings = m.owner.fields.map fun f => (f.name,
    if f.name ∈ excluded then f.initial else (Keyed.get? f.name m.supplied).getD f.initial)
  defaults : m'.defaults = (m.owner.fields.map Field.name).filter fun name =>
    name ∈ excluded || m.isDefault name

/-- A model is restored if it has the owner and, apart from the excluded fields, the values. -/
lemma Model.Restores.of_get? (owner : m'.owner = m.owner)
    (supplied : ∀ f ∈ m.owner.fields, Keyed.get? f.name m'.supplied =
      if f.name ∈ excluded then none else Keyed.get? f.name m.supplied) :
    Model.Restores excluded m m' := by
  refine ⟨owner, ?_, ?_⟩
  · unfold Model.settings
    rw [owner]
    refine List.map_congr_left fun f known => ?_
    rw [supplied f known]
    split <;> rfl
  · unfold Model.defaults
    rw [owner]
    refine List.filter_congr fun name mem => ?_
    obtain ⟨f, known, rfl⟩ := List.mem_map.mp mem
    have listed : f.name ∈ m.owner.fields.map Field.name := mem
    have given : m.isDefault f.name = !Keyed.has f.name m.supplied := by
      simp [Model.isDefault, Model.defaults, listed]
    rw [given, Keyed.has, supplied f known]
    by_cases out : f.name ∈ excluded <;> simp [out, Keyed.has]

/-- The flat labels of a label whose entries have different owners, and each a field that is not
left out, can be written and read again. The models are those of the label in their order, less the
fields that were left out. -/
theorem written_models_restored (p : Text) (excluded : List Text) {l : Label} (scalar : l.Scalar)
    (read : l.read = .ok ms) (distinct : (ms.map Model.owner).Nodup)
    (kept : ∀ m ∈ ms, ∃ q ∈ m.supplied, q.1 ∉ excluded) :
    Model.writeAll p excluded ms = .ok (Model.flatAll p excluded ms) ∧
    ∃ ms', (Label.ofFlat p (shownLabels (Model.flatAll p excluded ms))).read = .ok ms' ∧
      List.Forall₂ (Model.Restores excluded) ms ms' := by
  have wf := Label.wellFormed_of_read read
  have writes : ∀ m ∈ ms, m.Writes excluded := fun m mem =>
    (scalar.writable read mem).writes excluded
  refine ⟨Model.writeAll_eq_ok.mpr ⟨writes, rfl⟩, ?_⟩
  have nodup := Model.nodup_flatAll p excluded ms
  have hyphenated := Model.hyphenated_flatAll wf p excluded
  have readable : ∀ {o : Owner} {f : Field} {v : Text}, f ∈ o.fields →
      Keyed.get? (fieldKey p o f.name) (Model.flatAll p excluded ms) = some v →
        ∃ x, f.kind.read? (.str v) = .ok (some x) :=
    fun known written => exists_read_of_get?_flatAll wf writes known written
  -- there is a model, and it has a field that is written
  obtain ⟨some, entries⟩ := Label.read_eq_ok.mp read
  obtain ⟨m₀, mem₀⟩ := List.exists_mem_of_ne_nil ms fun none =>
    some (List.forall₂_nil_right_iff.mp (none ▸ entries))
  obtain ⟨q, supplied, out⟩ := kept m₀ mem₀
  obtain ⟨f₀, known₀, name, -⟩ := (wf m₀ mem₀).typed q supplied
  have shown := Model.isSome_get?_flatAll (p := p) wf mem₀ known₀ (name ▸ out)
    (name ▸ Option.isSome_iff_exists.mpr ⟨_, Keyed.get?_of_mem (wf m₀ mem₀).nodup supplied⟩)
  obtain ⟨ms', read'⟩ := exists_read nodup hyphenated readable known₀ shown
  refine ⟨ms', read', ?_⟩
  -- the models come in the order of the groups, and these in the order of the label
  have order : ms'.map Model.owner = ms.map Model.owner := by
    rw [Entry.owners_of_reads (Label.read_ofFlat.mp read').2, Model.flatAll_eq_flatMap wf distinct]
    exact Model.keys_regroup_flatMap wf kept distinct
  have aligned : List.Forall₂ (fun m m' => m'.owner = m.owner) ms ms' := by
    rw [← List.forall₂_eq_eq_eq, List.forall₂_map_left_iff, List.forall₂_map_right_iff] at order
    exact order.flip
  rw [List.forall₂_iff_zip] at aligned ⊢
  refine ⟨aligned.1, fun {m m'} pair => ?_⟩
  obtain ⟨mem, mem'⟩ := List.of_mem_zip pair
  have owner := aligned.2 pair
  refine .of_get? owner fun f known => ?_
  have rel := rel_supplied_of_read nodup hyphenated read' mem' (owner ▸ known)
  rw [owner, Model.get?_flatAll_of_distinct wf distinct mem known] at rel
  generalize reread : Keyed.get? f.name m'.supplied = x' at rel
  split at rel
  case isTrue out =>
    cases rel
    rw [if_pos out]
  case isFalse out =>
    rw [if_neg out]
    rcases had : Keyed.get? f.name m.supplied with _ | x
    · rw [had] at rel
      cases rel
      rfl
    · rw [had] at rel
      have back := FieldKind.read?_toText (scalar.writable read mem _ (Keyed.mem_of_get? had))
      rw [(wf m mem).kind_of_get? known had] at back
      cases rel with
      | some fieldRead => exact Except.ok.inj (fieldRead.symm.trans back)

/-- A label of two owners, with a number, a truth value and an empty text. -/
def ownersLabel : Label :=
  .many
    [some ⟨.str "proxy-downstream", [("mask", .int 24), ("id", .str "7"), ("color", .str "red")]⟩,
     some ⟨.str "provider",
       [("is_register", .bool false), ("country", .str ""), ("id", .bool true)]⟩]

/-- The models of the sample label are restored, the number and the truth value with them. -/
theorem sample_models_restored :
    ∃ ms m₁ m₂, ownersLabel.read = .ok ms ∧
      Model.writeAll "fleet.." ["id"] ms = .ok (Model.flatAll "fleet.." ["id"] ms) ∧
      (Label.ofFlat "fleet.." (shownLabels (Model.flatAll "fleet.." ["id"] ms))).read =
        .ok [m₁, m₂] ∧
      m₁.settings.map Prod.snd = [Setting.text "default-id", .text "default-ref-id",
        .text "default-ip", .number 24] ∧
      m₂.defaults = (["id", "user_identity", "provider_identity"] : List Text) := by
  have read : ownersLabel.read = .ok
      [⟨.egress, [("id", .text "7"), ("mask", .number 24)]⟩,
       ⟨.provider, [("id", .text "True"), ("country", .text ""), ("is_register", .flag false)]⟩] :=
    rfl
  have scalar : ownersLabel.Scalar := by
    intro e given
    simp only [ownersLabel, Label.entries, List.mem_cons, Option.some.injEq, List.not_mem_nil,
      or_false] at given
    rcases given with rfl | rfl
    · have short : Text.hasNumeral 24 := by decide
      simp [Entry.Scalar, Json.Scalar, short]
    · simp [Entry.Scalar, Json.Scalar]
  obtain ⟨written, ms', read', restores⟩ :=
    written_models_restored "fleet.." ["id"] scalar read (by decide) (by decide)
  cases restores with
  | cons first rest =>
    cases rest with
    | cons second rest =>
      cases rest
      refine ⟨_, _, _, read, written, read', ?_, ?_⟩
      · rw [first.settings]
        decide
      · rw [second.defaults]
        decide

end ProxyFleet
