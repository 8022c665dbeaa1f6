import IndexKeeper.Proofs.Json.Legible
import IndexKeeper.Proofs.Number.Layout
import IndexKeeper.Proofs.Number.Shortest
import IndexKeeper.Proofs.Settings.Overlay

/-!
# Comparing settings with their echo

A server echoes a setting as text, and the text is that by which the setting is compared, except for
some doubles: a double is compared by its digits in full, whole values without a point, while its
echo is its JSON text, which has an exponent or a `.0` there (`canonicalText_echo_iff`).  The two
also let a value halfway between two shortest decimals go different ways.
-/

namespace IndexKeeper

namespace Binary64

/-- JSON writes the double as it is compared: its shortest digits are a fraction and are written in
full, and they are the same digits whichever way halves go. -/
structure WrittenAlike (x : Binary64) : Prop where
  notWhole : x.toInt? = none
  fraction : (Decimal.shortest .toEven x).exponent < 0
  inFull : (Decimal.shortest .toEven x).InFull
  oneWay : Decimal.shortest .toEven x = Decimal.shortest .up x

instance (x : Binary64) : Decidable x.WrittenAlike :=
  decidable_of_iff (x.toInt? = none ∧ (Decimal.shortest .toEven x).exponent < 0 ∧
      (Decimal.shortest .toEven x).InFull ∧ Decimal.shortest .toEven x = Decimal.shortest .up x)
    ⟨fun ⟨hwhole, hfraction, hfull, hway⟩ => ⟨hwhole, hfraction, hfull, hway⟩,
      fun h => ⟨h.notWhole, h.fraction, h.inFull, h.oneWay⟩⟩

variable {x : Binary64}

theorem toInt?_of_isZero (h : x.isZero = true) : x.toInt? ≠ none := by
  have hzero : x.significand = 0 := by simpa [isZero] using h
  have hratio : x.ratio.1 = 0 := by
    rw [ratio, Decimal.scaled_fst, hzero, Nat.zero_mul]
  rw [toInt?, hratio, if_pos (Nat.zero_mod _)]
  exact Option.some_ne_none _

theorem significand_pos (h : x.isZero = false) : 0 < x.significand := by
  have hne : x.significand ≠ 0 := by simpa [isZero] using h
  omega

/-- The JSON text of a double is never that of an integer. -/
theorem dot_or_e_mem_jsonText (x : Binary64) :
    '.' ∈ x.jsonText.toList ∨ 'e' ∈ x.jsonText.toList := by
  rw [jsonText, String.toList_append]
  split
  · exact Or.inl (List.mem_append_right _ (by decide))
  · exact (Decimal.dot_or_e_mem_json _).imp (List.mem_append_right _) (List.mem_append_right _)

/-- A minus and digits. -/
def Numeral (cs : List Char) : Prop := ∀ c ∈ cs, c = '-' ∨ c.isDigit = true

theorem numeral_toString (i : Int) : Numeral (toString i).toList := by
  intro c hc
  rw [Json.toList_toString_int] at hc
  split at hc
  · exact Or.inr (Decimal.isDigit_of_mem_toDigits hc)
  · rcases List.mem_cons.mp hc with rfl | hdigit
    · exact Or.inl rfl
    · exact Or.inr (Decimal.isDigit_of_mem_toDigits hdigit)

theorem numeral_plainText (h : x.toInt? ≠ none) : Numeral x.plainText.toList := by
  intro c hc
  rw [plainText, String.toList_append, List.mem_append] at hc
  rcases hc with hsign | hdigits
  · rw [signText] at hsign
    split at hsign
    · exact Or.inl (List.mem_singleton.mp hsign)
    · cases hsign
  · split at hdigits
    · right
      rw [List.mem_singleton.mp hdigits]
      rfl
    · next hzero =>
      have hpos := significand_pos (Bool.not_eq_true _ ▸ hzero)
      exact Or.inr (Decimal.isDigit_of_mem_plain (Decimal.exponent_shortest hpos .up h) hdigits)

end Binary64

/-- Whole doubles are compared as integers are. -/
theorem Number.numeral_canonicalText {x : Binary64} (h : x.toInt? ≠ none) :
    Binary64.Numeral (Number.real x).canonicalText.toList := by
  rw [canonicalText]
  split
  · split
    · exact Binary64.numeral_toString _
    · exact Binary64.numeral_plainText h
  · exact Binary64.numeral_plainText h

/-- JSON writes a double as it is compared exactly if it writes a fraction in full. -/
theorem Number.jsonText_eq_canonicalText_iff (x : Binary64) :
    (Number.real x).jsonText = (Number.real x).canonicalText ↔ x.WrittenAlike := by
  cases hint : x.toInt? with
  | some i =>
    have hwhole : x.toInt? ≠ none := by simp [hint]
    refine iff_of_false ?_ fun halike => hwhole halike.notWhole
    intro heq
    have hnumeral := numeral_canonicalText hwhole
    rw [← heq, jsonText] at hnumeral
    rcases x.dot_or_e_mem_jsonText with hdot | he
    · exact absurd (hnumeral _ hdot) (by decide)
    · exact absurd (hnumeral _ he) (by decide)
  | none =>
    have hzero : x.isZero = false := by
      rw [← Bool.not_eq_true]
      exact fun hzero => Binary64.toInt?_of_isZero hzero hint
    have hpos := Binary64.significand_pos hzero
    have htexts : (Number.real x).jsonText = (Number.real x).canonicalText ↔
        (Decimal.shortest .toEven x).json = (Decimal.shortest .up x).plain := by
      rw [jsonText, canonicalText, hint, Binary64.jsonText, Binary64.plainText, hzero]
      simp only [Bool.false_eq_true, if_false]
      exact String.append_right_inj _
    rw [htexts, Decimal.json_eq_plain_iff (Decimal.digits_shortest hpos .up)]
    constructor
    · rintro ⟨hway, hfraction, hfull⟩
      exact ⟨hint, hfraction, hfull, hway⟩
    · rintro ⟨_, hfraction, hfull, hway⟩
      exact ⟨hway, hfraction, hfull⟩

namespace Json

/-- A leaf that JSON writes as it is compared, if it is a double. -/
def WrittenAlike (v : Json) : Prop := ∀ x, v = num (.real x) → x.WrittenAlike

/-- A leaf is compared by the same text as its echo, unless it is a double that JSON writes
otherwise than it is compared. -/
theorem canonicalText_echo_iff {v : Json} (hleaf : v.isObject = false) :
    v.echo.canonicalText = v.canonicalText ↔ v.WrittenAlike := by
  by_cases hreal : ∃ x, v = num (.real x)
  · obtain ⟨x, rfl⟩ := hreal
    have htext : (num (.real x)).echo.canonicalText = (Number.real x).jsonText := by
      simp [echo, canonicalText, text, chars]
    rw [htext, canonicalText, Number.jsonText_eq_canonicalText_iff, WrittenAlike]
    simp
  · have hother : ∀ x, v ≠ num (.real x) := fun x hx => hreal ⟨x, hx⟩
    exact iff_of_true (canonicalText_echo hleaf hother) fun x hx => absurd hx (hother x)

end Json

namespace Tree

/-- A leaf of settings and its echo are compared by one text exactly if the leaf is no double, or
one that JSON writes as a fraction in full. -/
theorem canonical?_echo_iff {v : Json} (hleaf : v.isObject = false) {t : Tree}
    (hord : t.MapsOrdered) {p : Path} (hp : p ∈ t.leafPaths) :
    (v.echo.canonicalText = v.canonicalText ↔ v.WrittenAlike) ∧
      (t.echo.canonical? p = t.canonical? p ↔ ∀ w, t.lookup p = some w → w.WrittenAlike) := by
  refine ⟨Json.canonicalText_echo_iff hleaf, ?_⟩
  obtain ⟨w, hw, hwleaf⟩ := (mem_leafPaths_iff hord).mp hp
  rw [canonical?, canonical?, lookup_echo, hw, Option.map_some, Option.map_some, Option.map_some,
    Option.some.injEq, Json.canonicalText_echo_iff hwleaf]
  simp

/-- A ratio of one and a half is echoed as it is compared. -/
theorem canonical?_echo_ratio :
    MapsOrdered ⟨[("index", .obj [("ratio", .num (.real ⟨false, 6755399441055744, -52⟩))])]⟩ ∧
      (Json.num (.real ⟨false, 6755399441055744, -52⟩)).echo.canonicalText = "1.5" ∧
      canonical? (echo ⟨[("index", .obj
        [("ratio", .num (.real ⟨false, 6755399441055744, -52⟩))])]⟩) ["index", "ratio"] =
          some "1.5" := by
  have hord : MapsOrdered
      ⟨[("index", .obj [("ratio", .num (.real ⟨false, 6755399441055744, -52⟩))])]⟩ := by
    refine Ordered.mapsOrdered ?_
    simp only [Ordered, toJson, Json.Ordered, Json.OrderedMembers, Keyed.Ordered]
    decide
  have halike : (Json.num (.real ⟨false, 6755399441055744, -52⟩)).WrittenAlike := by
    rintro x hx
    cases hx
    decide +kernel
  obtain ⟨hvalue, htree⟩ := canonical?_echo_iff
    (v := .num (.real ⟨false, 6755399441055744, -52⟩)) rfl hord
    (p := ["index", "ratio"]) (by decide)
  refine ⟨hord, ?_, ?_⟩
  · rw [hvalue.mpr halike]
    decide +kernel
  · rw [htree.mpr]
    · decide +kernel
    · rintro w hw
      cases hw
      exact halike

/-- Doubles whose echo is compared otherwise: one below `1e-5`, a whole one, and one halfway between
two shortest decimals. -/
theorem canonical?_echo_ne :
    (∃ t : Tree, t.MapsOrdered ∧ ["index", "a"] ∈ t.leafPaths ∧
      t.canonical? ["index", "a"] = some "0.0000001" ∧
      t.echo.canonical? ["index", "a"] = some "1e-7") ∧
    (Json.num (.real ⟨false, 4503599627370496, -47⟩)).canonicalText = "32" ∧
    (Json.num (.real ⟨false, 4503599627370496, -47⟩)).echo.canonicalText = "32.0" ∧
    (Json.num (.real ⟨false, 5902958103561216, -16⟩)).canonicalText = "90071992547.01563" ∧
    (Json.num (.real ⟨false, 5902958103561216, -16⟩)).echo.canonicalText = "90071992547.01562" := by
  refine ⟨⟨⟨[("index", .obj [("a", .num (.real ⟨false, 7555786372591432, -76⟩))])]⟩, ?_, ?_, ?_,
    ?_⟩, ?_, ?_, ?_, ?_⟩
  · refine Ordered.mapsOrdered ?_
    simp only [Ordered, toJson, Json.Ordered, Json.OrderedMembers, Keyed.Ordered]
    decide
  all_goals decide +kernel

end Tree

end IndexKeeper
