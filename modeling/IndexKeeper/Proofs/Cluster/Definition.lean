import IndexKeeper.Proofs.Cluster.Convergence
import IndexKeeper.Proofs.Manifest.Template
import IndexKeeper.Proofs.Pass.Deletion
import Mathlib

/-!
# Template definitions in a cluster

What is stored as the definition of a template after a pass for it.  The pass puts the whole
template anew if the stored definition does not have all of the wanted one, and leaves the stored
definition as it is otherwise (`definesAll_of_course`).  So every leaf that a declaration asks for
is there, and a field that it drops from an alias may stay, because a server may have added it.
-/

namespace IndexKeeper.Cluster

open Program Pass

variable {c c' : Cluster} {siblings : Except Fault (List String)}

/-- The definition that is stored under a name has all of the wanted one, and it is that one or the
one that was there. -/
def DefinesAll (c : Cluster) (name : String) (want was : TemplateDefinition) : Prop :=
  ∃ o stored, c.stored? name = some o ∧ o.template = some stored ∧ want.CoveredBy stored ∧
    (stored = want ∨ stored = was)

/-- A template that was put has the wanted definition. -/
theorem definesAll_of_put {d : Desired} {want : TemplateDefinition} (hwant : d.template = some want)
    {payload : Desired.Payload} (hp : d.payload = .ok payload)
    (h : Answered (respond siblings) c (changed d.kind .create (.create d.name payload) (.ok ())) c')
    (was : TemplateDefinition) : c'.DefinesAll d.name want was := by
  obtain ⟨_, _, rfl⟩ := exists_mark_of_payload hp
  exact ⟨_, want, stored?_of_created h, hwant, .refl want, Or.inl rfl⟩

/-- A template that was found has the wanted definition, or the one that was found has all of it. -/
theorem definesAll_of_converges {d : Desired} {want was : TemplateDefinition}
    (hwant : d.template = some want) (hmapped : want.Mapped) (hmapped' : was.Mapped)
    {observed : Observed} (hwas : observed.template = some was) {previous : Status}
    (hprevious : previous.acknowledged = true) {t : Transcript} {out : Outcome}
    (h : Converges d previous observed t out) (hclean : out.isFailure = false)
    (hstored : c.stored? d.name = some observed) (hanswered : Answered (respond siblings) c t c') :
    c'.DefinesAll d.name want was := by
  cases h with
  | notOwned hschema => simp at hclean
  | refused schema hschema _ f hplan => simp at hclean
  | adopted schema hschema hpending =>
    rw [Status.isUnacknowledgedCreate, hprevious, Bool.and_eq_true] at hpending
    cases hpending.2
  | executed schema hschema _ p hplan hexec =>
    have hdecides := decides_plan (d := d) hschema
    rw [hplan] at hdecides
    cases hdecides with
    | drifted hdrift =>
      cases hexec with
      | replaceMalformed m hp => simp at hclean
      | replaceFailed payload hp e => simp at hclean
      | replaced payload hp => exact definesAll_of_put hwant hp hanswered was
    | sends hdrift changed hchanges wanted seen hmark hseen =>
      -- the definition has not drifted, so what was found has all of the wanted one
      obtain ⟨_, hafter⟩ := stored?_of_executes hexec hclean hstored hanswered
      rw [definitionDrifted, hwant, hwas] at hdrift
      have hcovered := TemplateDefinition.coveredBy_of_differsFrom hmapped hmapped' hdrift
      exact ⟨_, was, hafter, hwas, hcovered, Or.inr rfl⟩

/-- The definition that is stored once a pass for a template ends acknowledged. -/
theorem definesAll_of_course {d : Desired} {want was : TemplateDefinition}
    (hwant : d.template = some want) (hmapped : want.Mapped) (hmapped' : was.Mapped)
    (hwas : ∀ o, c.stored? d.name = some o → o.template = some was) {previous : Status}
    (hprevious : previous.acknowledged = true) {t : Transcript} {out : Outcome}
    (hcourse : Course d previous t (.ok out)) (hout : out.status.acknowledged = true)
    (hanswered : Answered (respond siblings) c t c') : c'.DefinesAll d.name want was := by
  have hclean : out.isFailure = false := (hcourse.clean_of_acknowledged hout).isFailure
  cases hcourse with
  | creates hread hcreate =>
    obtain ⟨mid, _, hrest⟩ := answered_append_iff.mp hanswered
    obtain ⟨rfl, payload, hp, rfl⟩ := hcreate.eq_created hclean
    exact definesAll_of_put hwant hp hrest was
  | converges observed hread hconv =>
    obtain ⟨mid, hseen, hrest⟩ := answered_append_iff.mp hanswered
    obtain ⟨hstored, hmid⟩ := stored?_of_found hread hseen
    exact definesAll_of_converges hwant hmapped hmapped' (hwas observed hstored) hprevious hconv
      hclean hmid hrest

/-- A template was created from one declaration, and then a pass for another declaration of the
same name ends acknowledged: the stored definition has all of what the other declaration asks for,
and is what one of the two asks for. -/
theorem definition_of_reconcile {c : Cluster} {s s' : Spec} {d d' : Desired}
    {was want : TemplateDefinition} (h : s.DeclaresTemplate d was)
    (h' : s'.DeclaresTemplate d' want) (hname : s.name = s'.name) {payload : Desired.Payload}
    (hpayload : d.payload = .ok payload) {previous : Status}
    (hprevious : previous.acknowledged = true) {out : Outcome}
    (hvalue : ((c.serve (.create d.name payload)).2.reconcile d' previous).value = .ok out)
    (hout : out.status.acknowledged = true) :
    ∃ o stored, ((c.serve (.create d.name payload)).2.reconcile d' previous).state.stored? s'.name =
        some o ∧ o.template = some stored ∧ want.CoveredBy stored ∧
      (stored = want ∨ stored = was) := by
  obtain ⟨t, hends, hanswered, _⟩ := exists_transcript (respond (.ok []))
    (Pass.reconcile d' previous) (c.serve (.create d.name payload)).2
  rw [← reconcile, hvalue] at hends
  -- what is stored under the common name is what the creation left
  have hwas : ∀ o, (c.serve (.create d.name payload)).2.stored? d'.name = some o →
      o.template = some was := by
    intro o ho
    rw [serve, stored?_put, if_pos (h'.name.trans (hname.symm.trans h.name.symm))] at ho
    obtain ⟨_, _, rfl⟩ := exists_mark_of_payload hpayload
    cases ho
    exact h.template
  rw [← h'.name]
  exact definesAll_of_course h'.template h'.mapped h.mapped hwas hprevious (course_of_ends hends)
    hout hanswered

/-! ## Templates with one alias -/

/-- The declaration of a template with one alias. -/
def aliasTemplate (a : Alias) : Spec where
  name := "logs"
  template := some ⟨["logs-*"], [("current", a)], none⟩

/-- The definition that it gives, for the body of the alias. -/
def aliasDefinition (body : Json) : TemplateDefinition := ⟨["logs-*"], [("current", body)], none⟩

/-- What it asks for. -/
def aliasDesired (body : Json) : Desired :=
  ⟨"logs", false, ⟨[("index", .obj [])]⟩, .obj [], some (aliasDefinition body)⟩

/-- What its creation sends. -/
def aliasPayload (body : Json) : Desired.Payload :=
  ⟨⟨[("index", .obj [])]⟩, bareSchema, some (aliasDefinition body)⟩

/-- The pass for a template with one alias body over a cluster in which it was created with
another. -/
def aliasPass (body body' : Json) : Run Effect Cluster (Except Fault Outcome) :=
  (({} : Cluster).serve (.create "logs" (aliasPayload body))).2.reconcile (aliasDesired body')
    (.succeeded "logs" .create)

theorem declaresTemplate_alias {a : Alias} {body : Json} (h : a.body "current" = .ok body) :
    (aliasTemplate a).DeclaresTemplate (aliasDesired body) (aliasDefinition body) := by
  have hdefinition : Spec.definition ⟨["logs-*"], [("current", a)], none⟩ =
      .ok (aliasDefinition body) := by
    rw [Spec.definition, Spec.aliasBodies_cons, h]
    rfl
  -- the rules do not look at the alias
  have hcheck : (aliasTemplate a).check = (aliasTemplate {}).check := rfl
  have hempty : (aliasTemplate {}).check.isEmpty = true := by decide
  refine ⟨_, rfl, List.pairwise_singleton _ _, ?_, rfl⟩
  rw [Spec.toDesired, hcheck, if_pos hempty]
  simp only [Spec.desired, aliasTemplate, hdefinition]
  rfl

theorem payload_alias (body : Json) : (aliasDesired body).payload = .ok (aliasPayload body) := rfl

/-- The body of an alias to write through. -/
def writeBody : Json := .obj [("is_write_index", .bool true)]

/-- The body of an alias with a filter. -/
def filterBody (v : Json) : Json := .obj [("filter", v)]

theorem body_of_filter {text : String} {v : Json} (hblank : isBlankText text = false)
    (h : Json.ofText text = .ok v) :
    ({ filter := some text } : Alias).body "current" = .ok (filterBody v) := by
  rw [Alias.body, Alias.filterMember]
  simp only [hblank]
  rw [h]
  rfl

theorem definition_of_reconcile_logs :
    (aliasPass (.obj []) writeBody).value = .ok (updated (aliasDesired writeBody)) ∧
      ∃ o stored, (aliasPass (.obj []) writeBody).state.stored? "logs" = some o ∧
        o.template = some stored ∧ (aliasDefinition writeBody).CoveredBy stored ∧
        (stored = aliasDefinition writeBody ∨ stored = aliasDefinition (.obj [])) := by
  have hvalue : (aliasPass (.obj []) writeBody).value = .ok (updated (aliasDesired writeBody)) :=
    rfl
  have hbefore := declaresTemplate_alias (a := {}) rfl
  have hafter := declaresTemplate_alias (a := { isWriteIndex := true }) rfl
  exact ⟨hvalue, definition_of_reconcile hbefore hafter rfl (payload_alias _) rfl hvalue rfl⟩

/-- A template that was created with one alias body has it still after a pass for another one, which
reports that there was nothing to change. -/
structure Stays (a a' : Alias) (body body' : Json) : Prop where
  declared : (aliasTemplate a).DeclaresTemplate (aliasDesired body) (aliasDefinition body)
  declared' : (aliasTemplate a').DeclaresTemplate (aliasDesired body') (aliasDefinition body')
  created : (aliasDesired body).payload = .ok (aliasPayload body)
  value : (aliasPass body body').value =
    .ok (unchanged (aliasDesired body') (.succeeded "logs" .create))
  stored : ((aliasPass body body').state.stored? "logs").bind Observed.template =
    some (aliasDefinition body)
  other : aliasDefinition body ≠ aliasDefinition body'

/-- A flag that is turned off stays on, and a filter by a number is not replaced by the filter by
its text. -/
theorem alias_stays :
    Stays { isWriteIndex := true } {} writeBody (.obj []) ∧
      Stays { filter := some "1" } { filter := some "\"1\"" } (filterBody (.num (.int 1)))
        (filterBody (.str "1")) := by
  constructor
  · refine ⟨declaresTemplate_alias rfl, declaresTemplate_alias rfl, payload_alias _, rfl, rfl, ?_⟩
    intro heq
    cases heq
  · have hnumber : Json.ofText "1" = .ok (.num (.int 1)) := by rfl
    have htext : Json.ofText "\"1\"" = .ok (.str "1") := by cbv
    refine ⟨declaresTemplate_alias (body_of_filter (by decide) hnumber),
      declaresTemplate_alias (body_of_filter (by decide) htext), payload_alias _, rfl, rfl, ?_⟩
    intro heq
    cases heq

end IndexKeeper.Cluster
