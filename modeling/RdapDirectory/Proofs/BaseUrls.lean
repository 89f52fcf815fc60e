import RdapDirectory.Proofs.WebTexts
import RdapDirectory.Settings.Basic

namespace RdapDirectory.Url

open Text

structure IsWebUrl (u : Url) (a : Authority) (segs : List (List Char)) : Prop
    extends u.IsWebServer a segs where
  query : ∀ q ∈ u.query, ∀ c ∈ q.toList, keptInQuery true c = true
  fragment : ∀ f ∈ u.fragment, ∀ c ∈ f.toList, keptInFragment c = true

theorem exists_escaped {cs : List Char} {u : Url} (h : readChars cs = .ok u) :
    ∃ q f : Option (List Char),
      u.query = q.map (fun q => .ofList (escape (keptInQuery (isSpecial u.scheme)) q)) ∧
      u.fragment = f.map fun f => .ofList (escape keptInFragment f) := by
  unfold readChars at h
  simp only [bind, Except.bind, pure, Except.pure] at h
  split at h
  · cases h
  · split at h <;> cases h
    exact ⟨_, _, rfl, rfl⟩

theorem kept_of_escaped {keep : Char → Bool} (h : escapeSigns.all keep = true)
    {part : Option (List Char)} {s : String}
    (hs : s ∈ part.map fun cs => String.ofList (escape keep cs)) :
    ∀ c ∈ s.toList, keep c = true := by
  obtain ⟨cs, -, rfl⟩ := Option.map_eq_some_iff.1 hs
  rw [String.toList_ofList]
  exact forall_mem_escape (fun c _ hc => hc) h

theorem exists_isWebUrl {cs : List Char} {u : Url} (h : readChars cs = .ok u)
    (hw : u.isWeb = true) : ∃ a segs, u.IsWebUrl a segs := by
  obtain ⟨a, segs, hserver⟩ := exists_isWebServer h hw
  obtain ⟨query, fragment, hquery, hfragment⟩ := exists_escaped h
  have hspecial := (web_scheme hserver.scheme).2.2
  rw [hspecial] at hquery
  refine ⟨a, segs, hserver, ?_, ?_⟩
  · rw [hquery]
    exact fun q hq => kept_of_escaped (by decide) hq
  · rw [hfragment]
    exact fun f hf => kept_of_escaped (by decide) hf

namespace IsWebUrl

variable {u : Url} {a : Authority} {segs : List (List Char)}

theorem write_eq (h : u.IsWebUrl a segs) : u.write =
    webText u.scheme a segs (u.query.map String.toList) ++
      fragmentText (u.fragment.map String.toList) := by
  have hpath : u.path.write = pathText segs := by
    simp [h.path, Path.write, pathText, List.flatMap_map]
  unfold write webText bodyText
  rw [h.authority, hpath]
  cases u.query <;> cases u.fragment <;> simp [queryText, fragmentText]

theorem query_kept (h : u.IsWebUrl a segs) :
    ∀ q ∈ u.query.map String.toList, ∀ c ∈ q, keptInQuery true c = true := by
  intro q hq
  obtain ⟨s, hs, rfl⟩ := Option.map_eq_some_iff.1 hq
  exact h.query s hs

theorem fragment_kept (h : u.IsWebUrl a segs) :
    ∀ f ∈ u.fragment.map String.toList, ∀ c ∈ f, keptInFragment c = true := by
  intro f hf
  obtain ⟨s, hs, rfl⟩ := Option.map_eq_some_iff.1 hf
  exact h.fragment s hs

theorem readChars_write (h : u.IsWebUrl a segs) : readChars u.write = .ok u := by
  have hread := readChars_web h.scheme h.settled h.segs_ne_nil
    (arePlain_of_settled h.segs_settled) h.query_kept h.fragment_kept
  have hsame : ∀ part : Option String, (part.map String.toList).map String.ofList = part := by
    intro part
    cases part <;> simp
  rw [h.write_eq, hread, walk_eq_self h.segs_settled]
  simp only [webUrl, hsame, ← h.authority, ← h.path]

theorem isVisible_of_mem (h : u.IsWebUrl a segs) {c : Char} (hc : c ∈ u.write) :
    isVisible c = true := by
  rw [h.write_eq] at hc
  rcases List.mem_append.1 hc with hc | hc
  · exact webText_signs h.scheme h.settled (arePlain_of_settled h.segs_settled) h.query_kept c
      hc
  · exact fragmentText_signs h.fragment_kept c hc

theorem exists_slashed (h : u.IsWebUrl a segs) :
    ∃ (v : Url) (segs' : List (List Char)), v.IsWebUrl a segs' ∧ v.write = u.write ++ ['/'] := by
  have hslashed : ∀ {keep : Char → Bool} {s : String}, keep '/' = true →
      (∀ c ∈ s.toList, keep c = true) → ∀ c ∈ (s ++ "/").toList, keep c = true := by
    intro keep s hslash hs c hc
    rw [String.toList_append, List.mem_append] at hc
    rcases hc with hc | hc
    · exact hs c hc
    · exact List.mem_singleton.1 hc ▸ hslash
  cases hf : u.fragment with
  | some f =>
    refine ⟨{ u with fragment := some (f ++ "/") }, segs, ?_, ?_⟩
    · refine ⟨⟨h.scheme, h.authority, h.settled, h.path, h.segs_ne_nil, h.segs_settled⟩,
        h.query, ?_⟩
      rintro g ⟨⟩
      exact hslashed (by decide) (h.fragment f hf)
    · simp [write, hf]
  | none =>
    cases hq : u.query with
    | some q =>
      refine ⟨{ u with query := some (q ++ "/") }, segs, ?_, ?_⟩
      · refine ⟨⟨h.scheme, h.authority, h.settled, h.path, h.segs_ne_nil, h.segs_settled⟩,
          ?_, h.fragment⟩
        rintro g ⟨⟩
        exact hslashed (by decide) (h.query q hq)
      · simp [write, hf, hq]
    | none =>
      refine ⟨{ u with path := .steps ((segs ++ [[]]).map String.ofList) }, segs ++ [[]],
        ?_, ?_⟩
      · refine ⟨⟨h.scheme, h.authority, h.settled, rfl, by simp, ?_⟩, h.query, h.fragment⟩
        intro seg hseg
        rcases List.mem_append.1 hseg with hseg | hseg
        · exact h.segs_settled seg hseg
        · rw [List.mem_singleton.1 hseg]
          exact Settled.nil
      · simp [write, hf, hq, h.authority, h.path, Path.write]

end IsWebUrl

end RdapDirectory.Url

namespace RdapDirectory.Settings

open Text Url

theorem trim_of_visible {cs : List Char} (h : ∀ c ∈ cs, isVisible c = true) :
    trim (.ofList cs) = .ofList cs := by
  have hblank : ∀ c ∈ cs, isBlank c = false := by
    intro c hc
    obtain ⟨hlow, hhigh⟩ := visible_range (h c hc)
    simp only [isBlank, Bool.or_eq_false_iff, Bool.and_eq_false_iff, beq_eq_false_iff_ne,
      decide_eq_false_iff_not, ne_eq]
    omega
  unfold trim
  rw [String.toList_ofList, strip_of_free hblank]

theorem normalBaseUrl_of_slash {u : Url} {a : Authority} {segs : List (List Char)}
    (h : u.IsWebUrl a segs) (hslash : u.write.getLast? = some '/') :
    normalBaseUrl u.text = .ok u.text := by
  have hread : Url.read (trim u.text) = .ok u := by
    rw [Url.text, trim_of_visible fun c hc => h.isVisible_of_mem hc, Url.read,
      String.toList_ofList, h.readChars_write]
  have hweb : u.isWeb = true := by simpa [isWeb] using h.scheme
  unfold normalBaseUrl
  rw [hread]
  simp [hweb, hslash]

theorem exists_of_normalBaseUrl {s t : String} (h : normalBaseUrl s = .ok t) :
    ∃ (u : Url) (a : Authority) (segs : List (List Char)),
      u.IsWebUrl a segs ∧ u.text = t ∧ u.write.getLast? = some '/' := by
  unfold normalBaseUrl at h
  split at h
  · cases h
  · rename_i u hu
    split at h
    · cases h
    · rename_i hweb
      obtain ⟨a, segs, hurl⟩ := exists_isWebUrl hu (by simpa using hweb)
      split at h <;> cases h
      · rename_i hslash
        exact ⟨u, a, segs, hurl, rfl, hslash⟩
      · obtain ⟨v, segs', hv, hwrite⟩ := hurl.exists_slashed
        refine ⟨v, a, segs', hv, ?_, ?_⟩
        · rw [Url.text, Url.text, hwrite, String.ofList_append]
        · rw [hwrite]
          exact List.getLast?_concat

theorem normalBaseUrl_normal {s t : String} (h : normalBaseUrl s = .ok t) :
    normalBaseUrl t = .ok t := by
  obtain ⟨u, a, segs, hurl, rfl, hslash⟩ := exists_of_normalBaseUrl h
  exact normalBaseUrl_of_slash hurl hslash

end RdapDirectory.Settings
