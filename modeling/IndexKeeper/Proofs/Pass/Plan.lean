import IndexKeeper.Pass

/-!
# Plans

What `plan` decides, said once: the whole template anew exactly if its definition has drifted, a
fault if a fixed setting differs or the desired schema takes no marker, and otherwise what has
changed.  A schema that carries the marker is a document, so reading it is never in the way.
-/

namespace IndexKeeper

/-! ## Marked schemas are documents -/

theorem Tree.ofDocument?_toJson (t : Tree) : ofDocument? t.toJson = .ok t := rfl

theorem Ownership.exists_tree_of_mark {schema marked : Json} (h : mark schema = .ok marked) :
    ∃ want : Tree, marked = want.toJson := by
  unfold mark at h
  split at h
  · split at h
    · cases h
      exact ⟨⟨_⟩, rfl⟩
    · cases h
  · cases h

/-- A payload is what is desired, with the marker in the schema. -/
theorem exists_mark_of_payload {d : Desired} {payload : Desired.Payload}
    (h : d.payload = .ok payload) :
    ∃ want : Tree, Ownership.mark d.schema = .ok want.toJson ∧
      payload = ⟨d.settings, want.toJson, d.template⟩ := by
  rw [Desired.payload] at h
  cases hmark : Ownership.mark d.schema with
  | error m =>
    rw [hmark] at h
    cases h
  | ok marked =>
    obtain ⟨want, rfl⟩ := Ownership.exists_tree_of_mark hmark
    rw [hmark] at h
    cases h
    exact ⟨want, rfl, rfl⟩

theorem Observed.ownedSchema?_eq_some_iff {o : Observed} {schema : Json} :
    o.ownedSchema? = some schema ↔ o.schema = some schema ∧ Ownership.isOwned schema = true := by
  rw [ownedSchema?]
  exact Option.filter_eq_some_iff

theorem Observed.exists_tree_of_ownedSchema? {o : Observed} {schema : Json}
    (h : o.ownedSchema? = some schema) : ∃ seen : Tree, schema = seen.toJson := by
  obtain ⟨_, howned⟩ := ownedSchema?_eq_some_iff.mp h
  cases schema with
  | obj ms => exact ⟨⟨ms⟩, rfl⟩
  | _ => simp [Ownership.isOwned, Json.get?] at howned

namespace Pass

/-! ## The decision -/

theorem plan_of_drifted {d : Desired} {o : Observed} (h : definitionDrifted d o = true)
    (schema : Json) : plan d o schema = .ok .replace := by
  rw [plan, if_pos h]
  rfl

/-- A difference at a fixed setting decides the plan of a definition that has not drifted. -/
theorem plan_of_changes?_error {d : Desired} {o : Observed} (hdrift : definitionDrifted d o = false)
    {f : Fault} (h : Tree.changes? d.settings o.settings d.enforcesFixed = .error f)
    (schema : Json) : plan d o schema = .error f := by
  simp only [plan, hdrift, h]
  rfl

/-- A schema that takes no marker is a fault. -/
theorem plan_of_mark_error {d : Desired} {o : Observed} (hdrift : definitionDrifted d o = false)
    {changed : Bool} (h : Tree.changes? d.settings o.settings d.enforcesFixed = .ok changed)
    {m : Malformed} (hmark : Ownership.mark d.schema = .error m) (schema : Json) :
    plan d o schema = .error (.malformed m) := by
  simp only [plan, hdrift, h, hmark]
  rfl

/-- Otherwise what has changed is sent. -/
theorem plan_of_changes? {d : Desired} {o : Observed} (hdrift : definitionDrifted d o = false)
    {changed : Bool} (h : Tree.changes? d.settings o.settings d.enforcesFixed = .ok changed)
    {want : Tree} (hmark : Ownership.mark d.schema = .ok want.toJson) (seen : Tree) :
    plan d o seen.toJson =
      .ok (.send (if changed then some (outgoingSettings d) else none)
        (if Tree.schemaDiffers want seen then some want.toJson else none)) := by
  simp only [plan, hdrift, h, hmark, Tree.ofDocument?_toJson]
  rfl

/-- What a plan for an owned resource may be, and why. -/
inductive Decides (d : Desired) (o : Observed) (schema : Json) : Except Fault Plan → Prop
  | drifted (hdrift : definitionDrifted d o = true) : Decides d o schema (.ok .replace)
  | fixed (hdrift : definitionDrifted d o = false) (f : Fault)
    (hchanges : Tree.changes? d.settings o.settings d.enforcesFixed = .error f) :
    Decides d o schema (.error f)
  | unmarked (hdrift : definitionDrifted d o = false) (changed : Bool)
    (hchanges : Tree.changes? d.settings o.settings d.enforcesFixed = .ok changed)
    (m : Malformed) (hmark : Ownership.mark d.schema = .error m) :
    Decides d o schema (.error (.malformed m))
  | sends (hdrift : definitionDrifted d o = false) (changed : Bool)
    (hchanges : Tree.changes? d.settings o.settings d.enforcesFixed = .ok changed)
    (want seen : Tree) (hmark : Ownership.mark d.schema = .ok want.toJson)
    (hseen : schema = seen.toJson) :
    Decides d o schema
      (.ok (.send (if changed then some (outgoingSettings d) else none)
        (if Tree.schemaDiffers want seen then some want.toJson else none)))

theorem decides_plan {d : Desired} {o : Observed} {schema : Json}
    (howned : o.ownedSchema? = some schema) : Decides d o schema (plan d o schema) := by
  cases hdrift : definitionDrifted d o with
  | true =>
    rw [plan_of_drifted hdrift]
    exact .drifted hdrift
  | false =>
    cases hchanges : Tree.changes? d.settings o.settings d.enforcesFixed with
    | error f =>
      rw [plan_of_changes?_error hdrift hchanges]
      exact .fixed hdrift f hchanges
    | ok changed =>
      cases hmark : Ownership.mark d.schema with
      | error m =>
        rw [plan_of_mark_error hdrift hchanges hmark]
        exact .unmarked hdrift changed hchanges m hmark
      | ok marked =>
        -- both documents are objects, so reading them can not fail
        obtain ⟨want, rfl⟩ := Ownership.exists_tree_of_mark hmark
        obtain ⟨seen, rfl⟩ := Observed.exists_tree_of_ownedSchema? howned
        rw [plan_of_changes? hdrift hchanges hmark]
        exact .sends hdrift changed hchanges want seen hmark rfl

/-- What a plan says of the resource and of what is sent. -/
structure Justified (d : Desired) (o : Observed) (p : Plan) : Prop where
  replace : p = .replace → definitionDrifted d o = true
  settings : ∀ sent schema, p = .send (some sent) schema → sent = outgoingSettings d
  schema : ∀ settings sent, p = .send settings (some sent) → Ownership.mark d.schema = .ok sent

theorem justified_of_plan {d : Desired} {o : Observed} {schema : Json} {p : Plan}
    (howned : o.ownedSchema? = some schema) (hplan : plan d o schema = .ok p) :
    Justified d o p := by
  have hdecides := decides_plan (d := d) howned
  rw [hplan] at hdecides
  cases hdecides with
  | drifted hdrift => exact ⟨fun _ => hdrift, fun _ _ h => (by cases h), fun _ _ h => (by cases h)⟩
  | sends hdrift changed hchanges want seen hmark hseen =>
    refine ⟨fun h => (by cases h), ?_, ?_⟩
    · intro sent schema h
      have hsent := (Plan.send.inj h).1
      split at hsent
      · exact (Option.some.inj hsent).symm
      · cases hsent
    · intro settings sent h
      have hsent := (Plan.send.inj h).2
      split at hsent
      · rw [← Option.some.inj hsent]
        exact hmark
      · cases hsent

end Pass

end IndexKeeper
