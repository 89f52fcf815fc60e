import RdapDirectory.Proofs.WebUrls
import RdapDirectory.Request.Basic

namespace RdapDirectory.Url

open Text

def queryText : Option (List Char) → List Char
  | some q => '?' :: q
  | none => []

def fragmentText : Option (List Char) → List Char
  | some f => '#' :: f
  | none => []

def pathText (parts : List (List Char)) : List Char := parts.flatMap ('/' :: ·)

def bodyText (a : Authority) (parts : List (List Char)) : List Char :=
  '/' :: '/' :: a.write ++ pathText parts

def webText (scheme : String) (a : Authority) (parts : List (List Char))
    (query : Option (List Char)) : List Char :=
  scheme.toList ++ ':' :: (bodyText a parts ++ queryText query)

def webUrl (scheme : String) (a : Authority) (segs : List (List Char))
    (query : Option (List Char)) : Url where
  scheme := scheme
  authority := some a
  path := .steps (segs.map String.ofList)
  query := query.map String.ofList
  fragment := none

theorem write_webUrl (scheme : String) (a : Authority) (segs : List (List Char))
    (query : Option (List Char)) :
    (webUrl scheme a segs query).write = webText scheme a segs query := by
  have hpath : (Path.steps (segs.map String.ofList)).write = pathText segs := by
    simp [Path.write, pathText, List.flatMap_map]
  unfold write webUrl webText bodyText
  cases query <;> simp [hpath, queryText]

theorem pathText_append (as bs : List (List Char)) :
    pathText (as ++ bs) = pathText as ++ pathText bs :=
  List.flatMap_append

theorem pathText_eq {parts : List (List Char)} (h : parts ≠ []) :
    pathText parts = '/' :: List.intercalate ['/'] parts := by
  induction parts with
  | nil => exact absurd rfl h
  | cons x rest ih =>
    cases rest with
    | nil => simp [pathText]
    | cons y rest =>
      rw [intercalate_cons, pathText, List.flatMap_cons]
      rw [pathText] at ih
      rw [ih (by simp)]
      rfl

def isVisible (c : Char) : Bool := isPrintable c && c != ' '

theorem isVisible_of_ne {c : Char} (hp : isPrintable c = true) (hne : c ≠ ' ') :
    isVisible c = true := by
  simp [isVisible, hp, hne]

theorem visible_range {c : Char} (h : isVisible c = true) : 0x20 < c.toNat ∧ c.toNat < 0x7F := by
  have hblank : c.toNat ≠ 0x20 := fun he =>
    ne_of_holds h (d := ' ') (by decide) (Char.toNat_inj.1 he)
  simp only [isVisible, isPrintable, Bool.and_eq_true, decide_eq_true_eq] at h
  omega

theorem clean_of_visible {cs : List Char} (h : ∀ c ∈ cs, isVisible c = true) : clean cs = cs := by
  have hlow : ∀ c ∈ cs, decide (c.toNat ≤ 0x20) = false := by
    intro c hc
    have hrange := visible_range (h c hc)
    simp only [decide_eq_false_iff_not]
    omega
  unfold clean
  rw [strip_of_free hlow]
  apply List.filter_eq_self.2
  intro c hc
  have hv := h c hc
  simp [ne_of_holds hv (d := '\t') (by decide), ne_of_holds hv (d := '\n') (by decide),
    ne_of_holds hv (d := '\r') (by decide)]

theorem cutScheme?_web {scheme : String} (h : scheme = "http" ∨ scheme = "https")
    (rest : List Char) : cutScheme? (scheme.toList ++ ':' :: rest) = some (scheme, rest) := by
  rcases h with rfl | rfl <;> rfl

def isPlainSign (c : Char) : Bool := keptInPath c && !isSlash true c

theorem isPlainSign_iff {c : Char} :
    isPlainSign c = true ↔ keptInPath c = true ∧ isSlash true c = false := by
  simp [isPlainSign]

def ArePlain (parts : List (List Char)) : Prop :=
  ∀ part ∈ parts, ∀ c ∈ part, isPlainSign c = true

theorem arePlain_of_settled {parts : List (List Char)} (h : ∀ part ∈ parts, Settled part) :
    ArePlain parts := fun part hpart c hc =>
  isPlainSign_iff.2 ⟨(h part hpart).kept c hc, (h part hpart).free c hc⟩

theorem pathText_signs {parts : List (List Char)} (h : ArePlain parts) :
    ∀ c ∈ pathText parts, isVisible c = true ∧ c ≠ '?' ∧ c ≠ '#' := by
  intro c hc
  obtain ⟨part, hpart, hc⟩ := List.mem_flatMap.1 hc
  rcases List.mem_cons.1 hc with rfl | hc
  · decide
  · have hkept := (isPlainSign_iff.1 (h part hpart c hc)).1
    have hne : ∀ d, keptInPath d = false → c ≠ d := fun d hd => ne_of_holds hkept hd
    have hprint : isPrintable c = true := by
      simp only [keptInPath, keptInFragment, Bool.and_eq_true] at hkept
      exact hkept.1.1
    exact ⟨isVisible_of_ne hprint (hne ' ' (by decide)), hne '?' (by decide), hne '#' (by decide)⟩

theorem readPath_pathText {parts : List (List Char)} (hne : parts ≠ []) (h : ArePlain parts) :
    readPath true (pathText parts) = .steps ((walk false [] parts).map String.ofList) := by
  have hpieces : pieces (isSlash true) (List.intercalate ['/'] parts) = parts :=
    pieces_intercalate (by rfl) hne fun part hpart c hc =>
      (isPlainSign_iff.1 (h part hpart c hc)).2
  have hslash : isSlash true '/' = true := by rfl
  rw [pathText_eq hne, readPath, if_pos hslash, readSteps, hpieces]

theorem readBody_web {scheme : String} (hs : scheme = "http" ∨ scheme = "https") {a : Authority}
    (ha : a.Settled (defaultPort? scheme)) {parts : List (List Char)} (hne : parts ≠ [])
    (hparts : ArePlain parts) (more : Bool) :
    readBody scheme more (bodyText a parts) =
      .ok (some a, .steps ((walk false [] parts).map String.ofList)) := by
  obtain ⟨hfile, hhier, hspecial⟩ := web_scheme hs
  have hdrop : (bodyText a parts).dropWhile (isSlash true) = a.write ++ pathText parts := by
    obtain ⟨c, r, hc⟩ := List.exists_cons_of_ne_nil (Authority.write_ne_nil ha)
    have hsign := Authority.write_signs ha c (by simp [hc])
    have hstop : isSlash true c = false := by
      simp [isSlash, ne_of_holds hsign (d := '/') (by decide),
        ne_of_holds hsign (d := '\\') (by decide)]
    have hslash : isSlash true '/' = true := by rfl
    simp [bodyText, hc, hslash, hstop]
  have hstart : pathText parts = [] ∨ (pathText parts).head? = some '/' := by
    rw [pathText_eq hne]
    exact .inr rfl
  have hauthority := Authority.readAuthority_write hspecial ha more hstart
  unfold readBody
  rw [if_neg hfile, if_pos hhier, hdrop]
  simp only [bind, Except.bind, pure, Except.pure, hauthority, readPath_pathText hne hparts]

theorem bodyText_signs {usual : Option Nat} {a : Authority} (ha : a.Settled usual)
    {parts : List (List Char)} (hparts : ArePlain parts) :
    ∀ c ∈ bodyText a parts, isVisible c = true ∧ c ≠ '?' ∧ c ≠ '#' := by
  intro c hc
  rw [bodyText, List.mem_append, List.mem_cons, List.mem_cons] at hc
  rcases hc with (rfl | rfl | hc) | hc
  · decide
  · decide
  · have hsign := Authority.write_signs ha c hc
    have hne : ∀ d, Authority.isSign d = false → c ≠ d := fun d hd => ne_of_holds hsign hd
    have hprint : isPrintable c = true := by
      simp only [Authority.isSign, Bool.and_eq_true] at hsign
      exact hsign.1.1.1.1.1
    exact ⟨isVisible_of_ne hprint (hne ' ' (by decide)), hne '?' (by decide), hne '#' (by decide)⟩
  · exact pathText_signs hparts c hc

theorem queryText_signs {query : Option (List Char)}
    (hquery : ∀ q ∈ query, ∀ c ∈ q, keptInQuery true c = true) :
    ∀ c ∈ queryText query, isVisible c = true ∧ c ≠ '#' := by
  intro c hc
  cases query with
  | none => cases hc
  | some q =>
    rcases List.mem_cons.1 hc with rfl | hc
    · decide
    · have hkept := hquery q rfl c hc
      have hne : ∀ d, keptInQuery true d = false → c ≠ d := fun d hd => ne_of_holds hkept hd
      have hprint : isPrintable c = true := by
        simp only [keptInQuery, Bool.and_eq_true] at hkept
        exact hkept.1.1
      exact ⟨isVisible_of_ne hprint (hne ' ' (by decide)), hne '#' (by decide)⟩

theorem webText_signs {scheme : String} (hs : scheme = "http" ∨ scheme = "https")
    {usual : Option Nat} {a : Authority} (ha : a.Settled usual) {parts : List (List Char)}
    (hparts : ArePlain parts) {query : Option (List Char)}
    (hquery : ∀ q ∈ query, ∀ c ∈ q, keptInQuery true c = true) :
    ∀ c ∈ webText scheme a parts query, isVisible c = true := by
  intro c hc
  rw [webText, List.mem_append, List.mem_cons, List.mem_append] at hc
  rcases hc with hc | rfl | hc | hc
  · have hscheme : scheme.toList.all isVisible = true := by
      rcases hs with rfl | rfl <;> decide
    exact List.all_eq_true.1 hscheme c hc
  · decide
  · exact (bodyText_signs ha hparts c hc).1
  · exact (queryText_signs hquery c hc).1

theorem fragmentText_signs {fragment : Option (List Char)}
    (hfragment : ∀ f ∈ fragment, ∀ c ∈ f, keptInFragment c = true) :
    ∀ c ∈ fragmentText fragment, isVisible c = true := by
  intro c hc
  cases fragment with
  | none => cases hc
  | some f =>
    rcases List.mem_cons.1 hc with rfl | hc
    · decide
    · have hkept := hfragment f rfl c hc
      have hprint : isPrintable c = true := by
        simp only [keptInFragment, Bool.and_eq_true] at hkept
        exact hkept.1
      exact isVisible_of_ne hprint (ne_of_holds hkept (by decide))

theorem readChars_web {scheme : String} (hs : scheme = "http" ∨ scheme = "https")
    {a : Authority} (ha : a.Settled (defaultPort? scheme)) {parts : List (List Char)}
    (hne : parts ≠ []) (hparts : ArePlain parts) {query fragment : Option (List Char)}
    (hquery : ∀ q ∈ query, ∀ c ∈ q, keptInQuery true c = true)
    (hfragment : ∀ f ∈ fragment, ∀ c ∈ f, keptInFragment c = true) :
    readChars (webText scheme a parts query ++ fragmentText fragment) =
      .ok { webUrl scheme a (walk false [] parts) query with
        fragment := fragment.map String.ofList } := by
  obtain ⟨-, -, hspecial⟩ := web_scheme hs
  have hclean : clean (webText scheme a parts query ++ fragmentText fragment) =
      webText scheme a parts query ++ fragmentText fragment := by
    apply clean_of_visible
    intro c hc
    rcases List.mem_append.1 hc with hc | hc
    · exact webText_signs hs ha hparts hquery c hc
    · exact fragmentText_signs hfragment c hc
  have htext : webText scheme a parts query ++ fragmentText fragment =
      scheme.toList ++ ':' :: (bodyText a parts ++ queryText query ++ fragmentText fragment) := by
    simp [webText]
  have hbody := bodyText_signs ha hparts
  have hfragmentCut : cut? (· == '#') (bodyText a parts ++ queryText query ++
      fragmentText fragment) = fragment.map (bodyText a parts ++ queryText query, ·) := by
    have hfree : ∀ c ∈ bodyText a parts ++ queryText query, (c == '#') = false := by
      intro c hc
      rcases List.mem_append.1 hc with hc | hc
      · simpa using (hbody c hc).2.2
      · simpa using (queryText_signs hquery c hc).2
    cases fragment with
    | none => rw [fragmentText, List.append_nil, cut?_eq_none.2 hfree, Option.map_none]
    | some f => exact cut?_append_cons (by rfl) hfree
  have hqueryCut : cut? (· == '?') (bodyText a parts ++ queryText query) =
      query.map (bodyText a parts, ·) := by
    have hfree : ∀ c ∈ bodyText a parts, (c == '?') = false := fun c hc => by
      simpa using (hbody c hc).2.1
    cases query with
    | none => rw [queryText, List.append_nil, cut?_eq_none.2 hfree, Option.map_none]
    | some q => exact cut?_append_cons (by rfl) hfree
  have hread : ∀ more, readBody scheme more (bodyText a parts) =
      .ok (some a, .steps ((walk false [] parts).map String.ofList)) :=
    readBody_web hs ha hne hparts
  have hquerySame : ∀ q ∈ query, escape (keptInQuery true) q = q := fun q hq =>
    escape_of_kept (hquery q hq)
  have hfragmentSame : ∀ f ∈ fragment, escape keptInFragment f = f := fun f hf =>
    escape_of_kept (hfragment f hf)
  unfold readChars
  rw [hclean, htext, cutScheme?_web hs]
  simp only [hfragmentCut]
  cases fragment <;> simp only [Option.map_none, Option.map_some, fragmentText, List.append_nil,
    hqueryCut]
  all_goals
    cases query <;> simp_all [queryText, webUrl, bind, Except.bind, pure, Except.pure]

theorem readChars_webText {scheme : String} (hs : scheme = "http" ∨ scheme = "https")
    {a : Authority} (ha : a.Settled (defaultPort? scheme)) {parts : List (List Char)}
    (hne : parts ≠ []) (hparts : ArePlain parts) {query : Option (List Char)}
    (hquery : ∀ q ∈ query, ∀ c ∈ q, keptInQuery true c = true) :
    readChars (webText scheme a parts query) =
      .ok (webUrl scheme a (walk false [] parts) query) := by
  have hread := readChars_web hs ha hne hparts hquery (fun f hf => nomatch (hf : f ∈ none))
  rwa [fragmentText, List.append_nil] at hread

theorem exists_base {u : Url} {a : Authority} {segs : List (List Char)}
    (h : u.IsWebServer a segs) : ∃ front : List (List Char), (∀ seg ∈ front, Settled seg) ∧
      Request.baseOf u = webText u.scheme a front none ++ ['/'] := by
  have htrunk : u.trunk = webUrl u.scheme a segs none := by
    simp [trunk, webUrl, h.path, h.authority]
  have hwrite : u.trunk.write = webText u.scheme a segs none := by rw [htrunk, write_webUrl]
  have hlast := List.dropLast_append_getLast h.segs_ne_nil
  set last := segs.getLast h.segs_ne_nil with hlastdef
  have htext : webText u.scheme a segs none =
      webText u.scheme a segs.dropLast none ++ '/' :: last := by
    conv_lhs => rw [← hlast]
    simp [webText, bodyText, pathText, queryText]
  unfold Request.baseOf
  rw [hwrite]
  -- A text ends in a slash exactly if its last segment is empty.
  by_cases hempty : last = []
  · refine ⟨segs.dropLast, fun seg hseg => ?_, ?_⟩
    · exact h.segs_settled seg (List.dropLast_subset segs hseg)
    · have hslash : (webText u.scheme a segs none).getLast? = some '/' := by
        rw [htext, hempty]
        exact List.getLast?_concat
      rw [if_pos hslash, htext, hempty]
  · refine ⟨segs, h.segs_settled, ?_⟩
    have hslash : (webText u.scheme a segs none).getLast? ≠ some '/' := by
      rw [htext, List.getLast?_append_of_ne_nil _ (by simp), List.getLast?_cons]
      intro he
      have hmem : '/' ∈ last := by
        rw [List.getLast?_eq_some_getLast hempty, Option.getD_some] at he
        exact (Option.some.inj he) ▸ List.getLast_mem hempty
      have hsettled := h.segs_settled last (List.getLast_mem h.segs_ne_nil)
      exact absurd (hsettled.free '/' hmem) (by decide)
    rw [if_neg hslash]

end RdapDirectory.Url
