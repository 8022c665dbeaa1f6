import IndexKeeper.Http.Url
import IndexKeeper.Proofs.Http.Percent
import IndexKeeper.Proofs.Text.Split
import Mathlib.Data.List.DropRight
import Mathlib.Data.List.TakeDrop

/-!
# URLs that end in a name

What is appended to the text of a URL need not be read as a segment of its path: blanks and line
breaks are dropped, slashes separate segments, a question mark starts a query, and dot segments are
resolved.  A *plain* name is read as one segment, whatever URL it is appended to: its path is that
of the URL with this segment behind it (`exists_path_of_name`).  So the path tells two plain names
without capitals apart (`name_eq_of_path_eq`).
-/

namespace IndexKeeper

namespace UrlPath

/-! ## Segments -/

/-- Characters that are read as part of a segment. -/
def isPlainChar (c : Char) : Bool := Percent.isTelling c && !(['/', '\\', '?'].contains c)

/-- Names that are read as a segment. -/
def isPlain (name : List Char) : Bool := name.all isPlainChar && !isHere name && !isAbove name

theorem isPlain_iff {name : List Char} :
    isPlain name = true ↔
      (∀ c ∈ name, isPlainChar c = true) ∧ isHere name = false ∧ isAbove name = false := by
  simp [isPlain, and_assoc]

/-- What a plain character is not. -/
theorem of_isPlainChar {c : Char} (h : isPlainChar c = true) :
    Percent.isTelling c = true ∧ isAnySlash c = false ∧ c ≠ '?' ∧ c ≠ '#' ∧ 0x20 < c.toNat := by
  simp only [isPlainChar, Percent.isTelling, isAnySlash, Bool.and_eq_true, decide_eq_true_eq,
    Bool.not_eq_true', List.contains_eq_mem, decide_eq_false_iff_not, List.mem_cons,
    List.not_mem_nil, or_false, not_or] at h ⊢
  grind

/-- A plain name at the end of some segments stays there, and what it does not affect is before. -/
theorem exists_resolve_append (above parts : List (List Char)) :
    ∃ segments, ∀ name, isPlain name = true →
      resolve false above (parts ++ [name]) = segments ++ [Percent.encode Percent.inPath name] := by
  induction parts generalizing above with
  | nil =>
    refine ⟨above.reverse, ?_⟩
    intro name hname
    obtain ⟨_, hhere, habove⟩ := isPlain_iff.mp hname
    simp [resolve, hhere, habove]
  | cons part parts ih =>
    -- the name follows, so no segment before it is the last one
    have hlast (name : List Char) : (parts ++ [name]).isEmpty = false := by simp
    cases habove : isAbove part with
    | true =>
      obtain ⟨segments, h⟩ := ih (if above.head?.any startsAsDrive then above else above.tail)
      refine ⟨segments, fun name hname => ?_⟩
      simp [resolve, habove, hlast, ← h name hname]
    | false =>
      cases hhere : isHere part with
      | true =>
        obtain ⟨segments, h⟩ := ih above
        refine ⟨segments, fun name hname => ?_⟩
        simp [resolve, habove, hhere, hlast, ← h name hname]
      | false =>
        obtain ⟨segments, h⟩ := ih (Percent.encode Percent.inPath part :: above)
        refine ⟨segments, fun name hname => ?_⟩
        simp [resolve, habove, hhere, ← h name hname]

theorem pathChars_append_singleton (segments : List (List Char)) (segment : List Char) :
    pathChars (segments ++ [segment]) = pathChars segments ++ '/' :: segment := by
  simp [pathChars]

end UrlPath

namespace Url

open UrlPath (isPlain isAnySlash)

/-! ## Cleaning -/

/-- Blanks, which are dropped at the ends of a text. -/
def isEdge (c : Char) : Bool := c.toNat ≤ 0x20

/-- Characters that are not dropped inside of a text. -/
def isKept (c : Char) : Bool := !(['\t', '\n', '\r'].contains c)

theorem cleaned_eq (cs : List Char) :
    cleaned cs = ((cs.dropWhile isEdge).rdropWhile isEdge).filter isKept := rfl

/-- Nothing of a plain name after a slash is dropped. -/
theorem cleaned_append_name (base : List Char) {name : List Char} (hname : isPlain name = true) :
    cleaned (base ++ '/' :: name) = (base.dropWhile isEdge).filter isKept ++ '/' :: name := by
  obtain ⟨hchars, _⟩ := UrlPath.isPlain_iff.mp hname
  have hedge : ∀ c ∈ '/' :: name, isEdge c = false := by
    intro c hc
    rcases List.mem_cons.mp hc with rfl | hc
    · decide
    · have hblank := (UrlPath.of_isPlainChar (hchars c hc)).2.2.2.2
      simpa [isEdge] using hblank
  have hkept : ∀ c ∈ '/' :: name, isKept c = true := by
    intro c hc
    have hblank := hedge c hc
    simp only [isKept, List.contains_eq_mem, Bool.not_eq_true', decide_eq_false_iff_not]
    intro hdropped
    simp only [List.mem_cons, List.not_mem_nil, or_false] at hdropped
    rcases hdropped with rfl | rfl | rfl <;> exact absurd hblank (by decide)
  have hstart : (base ++ '/' :: name).dropWhile isEdge = base.dropWhile isEdge ++ '/' :: name := by
    have hslash : ('/' :: name).dropWhile isEdge = '/' :: name :=
      List.dropWhile_cons_of_neg (by decide)
    rw [List.dropWhile_append, hslash]
    split
    · next hempty => rw [List.isEmpty_iff.mp hempty, List.nil_append]
    · rfl
  have hend : (base.dropWhile isEdge ++ '/' :: name).rdropWhile isEdge =
      base.dropWhile isEdge ++ '/' :: name := by
    rw [List.rdropWhile_eq_self_iff]
    intro hne
    rw [List.getLast_append_of_ne_nil _ (List.cons_ne_nil _ _),
      hedge _ (List.getLast_mem (List.cons_ne_nil _ _))]
    exact Bool.false_ne_true
  rw [cleaned_eq, hstart, hend, List.filter_append, List.filter_eq_self.mpr hkept]

/-- A text that is continued may keep blanks that were dropped at its end. -/
theorem exists_cleaned_append (base : List Char) :
    ∃ gap, (∀ c ∈ gap, isEdge c = true) ∧ ∀ name, isPlain name = true →
      cleaned (base ++ '/' :: name) = cleaned base ++ gap ++ '/' :: name := by
  refine ⟨((base.dropWhile isEdge).rtakeWhile isEdge).filter isKept, ?_, ?_⟩
  · intro c hc
    exact List.mem_rtakeWhile_imp (List.mem_of_mem_filter hc)
  · intro name hname
    rw [cleaned_append_name base hname, cleaned_eq, ← List.filter_append,
      List.rdropWhile_append_rtakeWhile]

/-! ## Scheme, query and fragment -/

theorem readScheme?_append {cs rest : List Char} {scheme : String}
    (h : readScheme? cs = some (scheme, rest)) (ds : List Char) :
    readScheme? (cs ++ ds) = some (scheme, rest ++ ds) := by
  rw [readScheme?] at h
  split at h
  · next c more tail hsplit =>
    rw [readScheme?, splitFirst_append hsplit]
    split at h
    · next hchars =>
      obtain ⟨rfl, rfl⟩ : String.ofList ((c :: more).map Char.toLower) = scheme ∧ tail = rest := by
        simpa using h
      simp only [hchars, if_true]
    · cases h
  · cases h

/-- No query and no fragment starts in some characters. -/
def IsFront (cs : List Char) : Prop := ∀ c ∈ cs, (c == '#') = false ∧ (c == '?') = false

theorem splitTail_of_isFront {cs : List Char} (h : IsFront cs) :
    splitTail cs = (cs, none, none) := by
  rw [splitTail, splitFirst_of_forall fun c hc => (h c hc).1]
  simp only [splitFirst_of_forall fun c hc => (h c hc).2]

theorem isFront_of_splitTail {cs : List Char} (hquery : (splitTail cs).2.1 = none)
    (hfragment : (splitTail cs).2.2 = none) : IsFront cs := by
  cases hfirst : splitFirst (· == '#') cs with
  | mk front fragment =>
    cases hsecond : splitFirst (· == '?') front with
    | mk path query =>
      simp only [splitTail, hfirst, hsecond] at hquery hfragment
      subst hquery hfragment
      obtain ⟨rfl, hhash⟩ := eq_of_splitFirst_none hfirst
      obtain ⟨_, hmark⟩ := eq_of_splitFirst_none hsecond
      exact fun c hc => ⟨hhash c hc, hmark c hc⟩

/-! ## Authority and path -/

theorem ofHosted?_nil (implied : Option Nat) : Authority.ofHosted? implied [] = none := by
  have hhost : Host.ofChars? [] = none := by cbv
  simp [Authority.ofHosted?, Authority.splitUser, splitLast?, splitFirst, Authority.splitPort,
    hhost]

/-- A host is not empty, so there is something after the slashes that may stand before it. -/
theorem dropWhile_ne_nil_of_readHosted? {scheme : String} {cs : List Char}
    {r : Authority × String} (h : readHosted? scheme cs = some r) :
    cs.dropWhile isAnySlash ≠ [] := by
  intro hnil
  simp [readHosted?, hnil, ofHosted?_nil] at h

/-- The parts of a path that ends in a name, from the characters of authority and path. -/
theorem exists_splitChars_after (cs : List Char) :
    ∃ parts, ∀ name, (∀ c ∈ name, isAnySlash c = false) →
      splitChars isAnySlash (((cs ++ '/' :: name).dropWhile (!isAnySlash ·)).drop 1) =
        parts ++ [name] := by
  have hslash (name : List Char) : ('/' :: name).dropWhile (!isAnySlash ·) = '/' :: name :=
    List.dropWhile_cons_of_neg (by decide)
  cases hafter : cs.dropWhile (!isAnySlash ·) with
  | nil =>
    -- the name is the whole path
    refine ⟨[], fun name hname => ?_⟩
    rw [List.dropWhile_append, hafter, List.isEmpty_nil, if_pos rfl, hslash, List.drop_one,
      List.tail_cons, splitChars_of_forall hname, List.nil_append]
  | cons s path =>
    refine ⟨splitChars isAnySlash path, fun name hname => ?_⟩
    rw [List.dropWhile_append, hafter, List.isEmpty_cons, if_neg Bool.false_ne_true,
      List.cons_append, List.drop_one, List.tail_cons, splitChars_append_cons (by decide),
      splitChars_of_forall hname]

/-- The path of a URL with a host that ends in a plain name. -/
theorem exists_path_of_readHosted? (scheme : String) {cs : List Char}
    (hcs : cs.dropWhile isAnySlash ≠ []) :
    ∃ front, ∀ name a path, isPlain name = true →
      readHosted? scheme (cs ++ '/' :: name) = some (a, path) →
      path = String.ofList (front ++ '/' :: Percent.encode Percent.inPath name) := by
  obtain ⟨parts, hparts⟩ := exists_splitChars_after (cs.dropWhile isAnySlash)
  obtain ⟨segments, hsegments⟩ := UrlPath.exists_resolve_append [] parts
  refine ⟨UrlPath.pathChars segments, ?_⟩
  intro name a path hname h
  obtain ⟨hchars, _⟩ := UrlPath.isPlain_iff.mp hname
  have hslashes : ∀ c ∈ name, isAnySlash c = false :=
    fun c hc => (UrlPath.of_isPlainChar (hchars c hc)).2.1
  have hempty : (cs.dropWhile isAnySlash).isEmpty = false := by simpa using hcs
  have hpath : path = UrlPath.ofChars isAnySlash
      (((cs.dropWhile isAnySlash ++ '/' :: name).dropWhile (!isAnySlash ·)).drop 1) := by
    rw [readHosted?, List.dropWhile_append, hempty, if_neg Bool.false_ne_true,
      List.span_eq_takeWhile_dropWhile] at h
    obtain ⟨_, _, hresult⟩ := Option.bind_eq_some_iff.mp h
    exact (Prod.mk.inj (Option.some.inj hresult)).2.symm
  rw [hpath, UrlPath.ofChars, hparts name hslashes, hsegments name hname,
    UrlPath.pathChars_append_singleton]

/-! ## Whole URLs -/

/-- Whether a scheme is that of the web. -/
def IsWebScheme (scheme : String) : Prop := scheme = "http" ∨ scheme = "https"

theorem isWebScheme_of_isWeb {u : Url} (h : u.isWeb = true) : IsWebScheme u.scheme := by
  simp only [isWeb, Bool.and_eq_true, Bool.or_eq_true, beq_iff_eq] at h
  exact h.1.1

theorem IsWebScheme.hasHost {scheme : String} (h : IsWebScheme scheme) : hasHost scheme = true := by
  rcases h with rfl | rfl <;> decide

theorem IsWebScheme.ne_file {scheme : String} (h : IsWebScheme scheme) : scheme ≠ "file" := by
  rcases h with rfl | rfl <;> decide

/-- How the parts of a URL are read: the scheme from the cleaned text, the others from what follows
its colon. -/
structure ReadFrom (u : Url) (text rest : List Char) : Prop where
  scheme : readScheme? (cleaned text) = some (u.scheme, rest)
  query : u.query = none → (splitTail rest).2.1 = none
  fragment : u.fragment = none → (splitTail rest).2.2 = none
  path : IsWebScheme u.scheme → ∃ a, readHosted? u.scheme (splitTail rest).1 = some (a, u.path)

theorem readFrom_of_ofText? {text : String} {u : Url} (h : ofText? text = some u) :
    ∃ rest, ReadFrom u text.toList rest := by
  rw [ofText?] at h
  obtain ⟨⟨scheme, rest⟩, hscheme, h⟩ := Option.bind_eq_some_iff.mp h
  refine ⟨rest, ?_⟩
  simp only at h
  split at h
  · split at h
    · next hfile =>
      obtain ⟨⟨a, path⟩, _, h⟩ := Option.bind_eq_some_iff.mp h
      cases h
      exact ⟨hscheme, Option.map_eq_none_iff.mp, Option.map_eq_none_iff.mp,
        fun hweb => absurd hfile hweb.ne_file⟩
    · obtain ⟨⟨a, path⟩, hpath, h⟩ := Option.bind_eq_some_iff.mp h
      cases h
      exact ⟨hscheme, Option.map_eq_none_iff.mp, Option.map_eq_none_iff.mp, fun _ => ⟨a, hpath⟩⟩
  · next hhost =>
    obtain ⟨⟨a, path⟩, _, h⟩ := Option.bind_eq_some_iff.mp h
    cases h
    exact ⟨hscheme, Option.map_eq_none_iff.mp, Option.map_eq_none_iff.mp,
      fun hweb => absurd hweb.hasHost hhost⟩

/-- The scheme, authority and path of the URL of a server with a plain name appended: the scheme is
that of the server, and what its scheme leaves to be read is longer by the name. -/
theorem exists_readHosted?_of_name {base rest gap : List Char} {server u : Url} {name : List Char}
    (hserver : ReadFrom server base rest) (hrest : IsFront rest)
    (hgap : ∀ c ∈ gap, isEdge c = true)
    (hcleaned : cleaned (base ++ '/' :: name) = cleaned base ++ gap ++ '/' :: name)
    (hname : isPlain name = true) (hu : ofText? (String.ofList (base ++ '/' :: name)) = some u)
    (hweb : IsWebScheme u.scheme) :
    u.scheme = server.scheme ∧
      ∃ a, readHosted? u.scheme (rest ++ gap ++ '/' :: name) = some (a, u.path) := by
  obtain ⟨longer, hlonger⟩ := readFrom_of_ofText? hu
  rw [String.toList_ofList] at hlonger
  have hscheme := hlonger.scheme
  rw [hcleaned, List.append_assoc, readScheme?_append hserver.scheme] at hscheme
  obtain ⟨hsame, rfl⟩ := Prod.mk.inj (Option.some.inj hscheme)
  have hfront : IsFront (rest ++ (gap ++ '/' :: name)) := by
    intro c hc
    rcases List.mem_append.mp hc with hc | hc
    · exact hrest c hc
    · rcases List.mem_append.mp hc with hc | hc
      · have hblank := hgap c hc
        constructor <;> (rw [beq_eq_false_iff_ne]; rintro rfl; exact absurd hblank (by decide))
      · rcases List.mem_cons.mp hc with rfl | hc
        · decide
        · obtain ⟨_, _, hmark, hhash, _⟩ :=
            UrlPath.of_isPlainChar ((UrlPath.isPlain_iff.mp hname).1 c hc)
          exact ⟨beq_eq_false_iff_ne.mpr hhash, beq_eq_false_iff_ne.mpr hmark⟩
  obtain ⟨a, hread⟩ := hlonger.path hweb
  rw [splitTail_of_isFront hfront, ← List.append_assoc] at hread
  exact ⟨hsame.symm, a, hread⟩

/-- A plain name that is appended to the URL of a server is the last segment of the path, and what
stands before it does not depend on the name. -/
theorem exists_path_of_name {base : List Char} {server : Url}
    (h : ofText? (String.ofList base) = some server) (hquery : server.query = none)
    (hfragment : server.fragment = none) :
    ∃ front, ∀ name u, isPlain name = true →
      ofText? (String.ofList (base ++ '/' :: name)) = some u → IsWebScheme u.scheme →
      u.path = String.ofList (front ++ '/' :: Percent.encode Percent.inPath name) := by
  obtain ⟨rest, hserver⟩ := readFrom_of_ofText? h
  rw [String.toList_ofList] at hserver
  obtain ⟨gap, hgap, hcleaned⟩ := exists_cleaned_append base
  have hrest : IsFront rest :=
    isFront_of_splitTail (hserver.query hquery) (hserver.fragment hfragment)
  by_cases hweb : IsWebScheme server.scheme
  · obtain ⟨a, hhost⟩ := hserver.path hweb
    rw [splitTail_of_isFront hrest] at hhost
    have hne : (rest ++ gap).dropWhile isAnySlash ≠ [] := by
      have hstart := dropWhile_ne_nil_of_readHosted? hhost
      rw [List.dropWhile_append, List.isEmpty_eq_false_iff.mpr hstart,
        if_neg Bool.false_ne_true]
      exact List.append_ne_nil_of_left_ne_nil hstart gap
    obtain ⟨front, hfront⟩ := exists_path_of_readHosted? server.scheme hne
    refine ⟨front, fun name u hname hu huweb => ?_⟩
    obtain ⟨hsame, a, hread⟩ := exists_readHosted?_of_name hserver hrest hgap
      (hcleaned name hname) hname hu huweb
    rw [hsame] at hread
    exact hfront name a u.path hname hread
  · -- the scheme stays that of the server
    refine ⟨[], fun name u hname hu huweb => ?_⟩
    obtain ⟨hsame, _⟩ := exists_readHosted?_of_name hserver hrest hgap
      (hcleaned name hname) hname hu huweb
    exact absurd (hsame ▸ huweb) hweb

/-- Plain names without capitals that are appended to the URL of a server are told apart by the
path. -/
theorem name_eq_of_path_eq {base name other : List Char} {server u v : Url}
    (h : ofText? (String.ofList base) = some server) (hquery : server.query = none)
    (hfragment : server.fragment = none)
    (hname : isPlain name = true) (hother : isPlain other = true)
    (hlower : ∀ c ∈ name, c.isUpper = false) (hlower' : ∀ c ∈ other, c.isUpper = false)
    (hu : ofText? (String.ofList (base ++ '/' :: name)) = some u)
    (hv : ofText? (String.ofList (base ++ '/' :: other)) = some v)
    (hweb : IsWebScheme u.scheme) (hweb' : IsWebScheme v.scheme) (hpath : u.path = v.path) :
    name = other := by
  obtain ⟨front, hfront⟩ := exists_path_of_name h hquery hfragment
  rw [hfront name u hname hu hweb, hfront other v hother hv hweb'] at hpath
  have hencode := (List.cons.inj (List.append_cancel_left (String.ofList_inj.mp hpath))).2
  have htelling {cs : List Char} (hcs : isPlain cs = true) : ∀ c ∈ cs, Percent.isTelling c = true :=
    fun c hc => (UrlPath.of_isPlainChar ((UrlPath.isPlain_iff.mp hcs).1 c hc)).1
  exact Percent.encode_inPath_injective
    (fun c hc => ⟨htelling hname c hc, hlower c hc⟩)
    (fun c hc => ⟨htelling hother c hc, hlower' c hc⟩) hencode

end Url

end IndexKeeper
