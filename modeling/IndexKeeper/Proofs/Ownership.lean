import IndexKeeper.Proofs.Pass.Confirmation
import IndexKeeper.Proofs.Pass.Permission
import IndexKeeper.Proofs.Resource

/-!
# The marker is exact

`mark` writes the marker and `isOwned` reads it.  Writing fails on the documents that have no place
for the marker, and on no others (`mark_error_iff`); where it succeeds, the document has the marker
and is otherwise as it was (`MarkedFrom`).  So a document carries the marker exactly if writing it
changes nothing (`mark_eq_self_iff`).

A pass sends a schema in two ways, and both go through `mark`: whatever is desired and whatever the
cluster answers, no schema leaves without the marker.
-/

namespace IndexKeeper

namespace Ownership

/-! ## Reading -/

/-- The marker is read at one place, and only the identity as a text counts. -/
theorem isOwned_iff {schema : Json} :
    isOwned schema = true ↔
      (schema.get? metaField).bind (Json.get? ownerField) = some (.str identity) := by
  rw [isOwned]
  split
  · next s hs =>
    rw [hs]
    simp
  · next hother =>
    refine iff_of_false Bool.false_ne_true ?_
    exact fun hread => hother _ hread

/-! ## Writing -/

/-- A success of `mark`, with the entries of `_meta` that were found. -/
theorem mark_eq_ok_iff {schema marked : Json} :
    mark schema = .ok marked ↔ ∃ ms entries, schema = .obj ms ∧
      (Keyed.get? metaField ms).getD (.obj []) = .obj entries ∧
      marked = .obj (Keyed.insert metaField
        (.obj (Keyed.insert ownerField (.str identity) entries)) ms) := by
  constructor
  · intro h
    unfold mark at h
    split at h
    · next ms =>
      split at h
      · next entries hentries =>
        cases h
        exact ⟨ms, entries, rfl, hentries, rfl⟩
      · cases h
    · cases h
  · rintro ⟨ms, entries, rfl, hentries, rfl⟩
    simp only [mark, hentries]

/-- There is no place for the marker exactly in what is no object, or has a `_meta` that is none. -/
theorem mark_error_iff {schema : Json} :
    (∃ m, mark schema = .error m) ↔
      schema.isObject = false ∨ ∃ v, schema.get? metaField = some v ∧ v.isObject = false := by
  cases schema with
  | obj ms =>
    cases hmeta : Keyed.get? metaField ms with
    | none => simp [mark, hmeta, Json.isObject, Json.get?]
    | some v => cases v <;> simp [mark, hmeta, Json.isObject, Json.get?]
  | _ => simp [mark, Json.isObject]

/-- A document is a schema with the marker: it differs from the schema in this one member at most. -/
structure MarkedFrom (schema marked : Json) : Prop where
  owned : isOwned marked = true
  ordered : schema.MapsOrdered → marked.MapsOrdered
  /-- Beside `_meta` there are the members of the schema. -/
  root : ∀ key, key ≠ metaField → marked.get? key = schema.get? key
  /-- Beside the marker there are the entries of `_meta`; without a `_meta` there are none. -/
  entries : ∀ key, key ≠ ownerField →
    (marked.get? metaField).bind (Json.get? key) = (schema.get? metaField).bind (Json.get? key)

theorem markedFrom_of_mark {schema marked : Json} (h : mark schema = .ok marked) :
    MarkedFrom schema marked := by
  obtain ⟨ms, entries, rfl, hentries, rfl⟩ := mark_eq_ok_iff.mp h
  refine ⟨isOwned_of_mark h, ?_, ?_, ?_⟩
  · intro hschema
    obtain ⟨tree, htree⟩ := exists_tree_of_mark h
    rw [htree] at h ⊢
    exact mapsOrdered_of_mark h hschema
  · intro key hkey
    exact Keyed.get?_insert_of_ne hkey _ ms
  · intro key hkey
    have hmarked : Keyed.get? key (Keyed.insert ownerField (.str identity) entries) =
        Keyed.get? key entries := Keyed.get?_insert_of_ne hkey _ entries
    simp only [Json.get?, Keyed.get?_insert_self, Option.bind_some, hmarked]
    -- the entries are those of `_meta`, or there is no `_meta` and there are none
    cases hget : Keyed.get? metaField ms with
    | none =>
      rw [hget] at hentries
      cases hentries
      rfl
    | some v =>
      rw [hget] at hentries
      cases hentries
      rfl

/-- Writing the marker into a document that carries it changes nothing, and only there. -/
theorem mark_eq_self_iff {schema : Json} (h : schema.MapsOrdered) :
    mark schema = .ok schema ↔ isOwned schema = true := by
  constructor
  · exact isOwned_of_mark
  · intro howned
    obtain ⟨v, hv, howner⟩ := Option.bind_eq_some_iff.mp (isOwned_iff.mp howned)
    -- what has a member is an object, at both levels
    cases schema with
    | obj ms =>
      cases v with
      | obj entries =>
        have hentries : (Json.obj entries).MapsOrdered := h.of_get? hv
        refine mark_eq_ok_iff.mpr ⟨ms, entries, rfl, ?_, ?_⟩
        · rw [show Keyed.get? metaField ms = some (.obj entries) from hv]
          rfl
        · rw [Keyed.insert_eq_self hentries.keys howner, Keyed.insert_eq_self h.keys hv]
      | _ => cases howner
    | _ => cases hv

end Ownership

/-! ## What a pass sends -/

/-- The schema that a call sends, if it sends one. -/
def Call.schema? : Call → Option Json
  | create _ payload => some payload.schema
  | updateSchema _ schema => some schema
  | _ => none

theorem Call.isMutation_of_schema? {c : Call} {schema : Json} (h : c.schema? = some schema) :
    c.isMutation = true := by
  cases c <;> first | rfl | cases h

namespace Pass

open Program

/-- Every schema among the changes that a pass may ask for is the desired one with the marker. -/
theorem Permitted.mark_of_schema? {d : Desired} {seen t : Transcript} (h : Permitted d seen t)
    {x : Exchange Effect Effect.Answer} (hx : x ∈ t) {c : Call} (hc : x.question = .remote c)
    {schema : Json} (hschema : c.schema? = some schema) :
    Ownership.mark d.schema = .ok schema := by
  -- the calls that send a schema send a payload or the marked schema itself
  have hpayload : ∀ (payload : Desired.Payload) (r : Except RemoteError Unit),
      d.payload = .ok payload → x = replied (.create d.name payload) r →
        Ownership.mark d.schema = .ok schema := by
    rintro payload r hp rfl
    cases hc
    cases hschema
    obtain ⟨want, hmark, rfl⟩ := exists_mark_of_payload hp
    exact hmark
  have hmarked : ∀ (marked : Json) (r : Except RemoteError Unit),
      Ownership.mark d.schema = .ok marked → x = replied (.updateSchema d.name marked) r →
        Ownership.mark d.schema = .ok schema := by
    rintro marked r hmark rfl
    cases hc
    cases hschema
    exact hmark
  have hsettings : ∀ (sent : Tree) (r : Except RemoteError Unit),
      x ≠ replied (.updateSettings d.name sent) r := by
    rintro sent r rfl
    cases hc
    cases hschema
  cases h with
  | nothing => cases hx
  | createAbsent _ payload hp r => exact hpayload payload r hp (List.mem_singleton.mp hx)
  | createVanished _ payload hp r => exact hpayload payload r hp (List.mem_singleton.mp hx)
  | replace _ _ _ _ _ payload hp r => exact hpayload payload r hp (List.mem_singleton.mp hx)
  | settings _ _ _ r => exact absurd (List.mem_singleton.mp hx) (hsettings _ r)
  | schema _ _ _ marked hmark r => exact hmarked marked r hmark (List.mem_singleton.mp hx)
  | both _ _ _ marked hmark r =>
    rcases List.mem_cons.mp hx with heq | hlast
    · exact absurd heq (hsettings _ _)
    · exact hmarked marked r hmark (List.mem_singleton.mp hlast)

/-- Every schema that a pass sends is the desired one with the marker. -/
theorem Course.mark_of_schema? {d : Desired} {previous : Status} {t : Transcript}
    {r : Except Fault Outcome} (h : Course d previous t r) {c : Call}
    (hc : c ∈ callsOf (t.map Exchange.question)) {schema : Json}
    (hschema : c.schema? = some schema) : Ownership.mark d.schema = .ok schema := by
  obtain ⟨x, hx, hquestion⟩ := mem_changesOf_of_mem_callsOf hc (c.isMutation_of_schema? hschema)
  obtain ⟨seen, rest, rfl, hseen, hpermitted⟩ := h.permitted
  rw [changesOf_append, hseen, List.nil_append] at hx
  exact hpermitted.mark_of_schema? hx hquestion hschema

end Pass

namespace Ownership

open Program

/-- Writing and reading the marker agree on every document.  Writing fails exactly where there is no
place for the marker, else it adds the marker and nothing more; and it leaves a document as it is
exactly if the marker is read there.  So every schema that a pass sends carries the marker. -/
theorem marker_exact :
    (∀ schema : Json,
      ((∃ m, mark schema = .error m) ↔
        schema.isObject = false ∨ ∃ v, schema.get? metaField = some v ∧ v.isObject = false) ∧
      (∀ marked, mark schema = .ok marked → MarkedFrom schema marked) ∧
      (schema.MapsOrdered → (isOwned schema = true ↔ mark schema = .ok schema))) ∧
    ∀ (d : Desired) (previous : Status) (t : Pass.Transcript) (r : Except Fault Outcome),
      Ends (Pass.reconcile d previous) t r →
        ∀ c ∈ callsOf (t.map Exchange.question), ∀ schema, c.schema? = some schema →
          isOwned schema = true := by
  refine ⟨?_, ?_⟩
  · intro schema
    exact ⟨mark_error_iff, fun _ h => markedFrom_of_mark h, fun h => (mark_eq_self_iff h).symm⟩
  · intro d previous t r hends c hc schema hschema
    exact isOwned_of_mark ((Pass.course_of_ends hends).mark_of_schema? hc hschema)

/-- A schema with the marker of another operator is claimed, with its other entry kept, and then
stays as it is; the creation of an index sends its schema with the marker. -/
theorem marker_exact_foreign :
    MarkedFrom
        (.obj [("_meta", .obj [("managed-by", .str "another"), ("team", .str "search")])])
        (.obj [("_meta", .obj [("managed-by", .str identity), ("team", .str "search")])]) ∧
      mark (.obj [("_meta", .obj [("managed-by", .str identity), ("team", .str "search")])]) =
        .ok (.obj [("_meta", .obj [("managed-by", .str identity), ("team", .str "search")])]) ∧
      isOwned Pass.bareSchema = true := by
  refine ⟨(marker_exact.1 _).2.1 _ rfl, ?_, ?_⟩
  · refine ((marker_exact.1 _).2.2 ?_).mp rfl
    refine Json.Ordered.mapsOrdered ?_
    simp only [Json.Ordered, Json.OrderedMembers, Keyed.Ordered]
    decide
  · have hends := Pass.ends_reconcile_created (d := Pass.bareIndex "logs") rfl {}
    refine marker_exact.2 _ _ _ _ hends (.create "logs" ⟨.empty, Pass.bareSchema, none⟩) ?_ _ rfl
    exact List.mem_cons_of_mem _ List.mem_cons_self

end Ownership

end IndexKeeper
