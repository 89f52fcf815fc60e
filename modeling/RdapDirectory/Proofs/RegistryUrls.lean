import RdapDirectory.Client.Basic
import RdapDirectory.Proofs.BaseUrls
import RdapDirectory.Proofs.Registries

namespace RdapDirectory.Url

open Text

def Path.behind : Path → String → Path
  | steps segments, tail => steps (segments.dropLast ++ [segments.getLastD "" ++ tail])
  | rootless text, tail => rootless (text ++ tail)

/-- The URL with more text behind its own, which belongs to the last of its parts. -/
def behind (u : Url) (tail : String) : Url :=
  match u.fragment, u.query with
  | some f, _ => { u with fragment := some (f ++ tail) }
  | none, some q => { u with query := some (q ++ tail) }
  | none, none => { u with path := u.path.behind tail }

def EndsInPath (u : Url) : Prop := u.query = none ∧ u.fragment = none

def slashed (cs : List Char) : List Char := if cs.getLast? = some '/' then cs else cs ++ ['/']

theorem Path.write_behind {segments : List String} (h : segments ≠ []) (tail : String) :
    ((steps segments).behind tail).write = (steps segments).write ++ tail.toList := by
  obtain ⟨front, last, rfl⟩ : ∃ front last, segments = front ++ [last] :=
    ⟨_, _, (List.dropLast_append_getLast h).symm⟩
  simp [behind, write]

theorem behind_server (u : Url) (tail : String) :
    (u.behind tail).scheme = u.scheme ∧ (u.behind tail).authority = u.authority := by
  unfold behind
  split <;> exact ⟨rfl, rfl⟩

theorem behind_of_endsInPath {u : Url} (h : u.EndsInPath) (tail : String) :
    u.behind tail = { u with path := u.path.behind tail } := by
  simp only [behind, h.1, h.2]

theorem path_behind {u : Url} (h : ¬ u.EndsInPath) (tail : String) :
    (u.behind tail).path = u.path := by
  unfold behind
  split
  · rfl
  · rfl
  · rename_i hf hq
    exact absurd ⟨hq, hf⟩ h

namespace IsWebUrl

variable {u : Url} {a : Authority} {segs : List (List Char)}

theorem segments_ne_nil (h : u.IsWebUrl a segs) : segs.map String.ofList ≠ [] := by
  simpa using h.segs_ne_nil

theorem write_behind (h : u.IsWebUrl a segs) (tail : String) :
    (u.behind tail).write = u.write ++ tail.toList := by
  have hpath : (u.path.behind tail).write = u.path.write ++ tail.toList := by
    rw [h.path]
    exact Path.write_behind h.segments_ne_nil tail
  unfold behind
  split <;> simp_all [write, h.authority]

theorem path_text (h : u.IsWebUrl a segs) (hend : u.EndsInPath) :
    u.write = u.scheme.toList ++ ':' :: '/' :: '/' :: a.write ++ u.path.write := by
  simp [write, h.authority, hend.1, hend.2]

theorem getLast?_path (h : u.IsWebUrl a segs) (hend : u.EndsInPath) :
    u.path.write.getLast? = u.write.getLast? := by
  have hne : u.path.write ≠ [] := by
    obtain ⟨seg, rest, rfl⟩ := List.exists_cons_of_ne_nil h.segs_ne_nil
    simp [h.path, Path.write]
  rw [h.path_text hend, List.getLast?_append_of_ne_nil _ hne]

theorem exists_front (h : u.IsWebUrl a segs) (hend : u.EndsInPath)
    (hslash : u.write.getLast? = some '/') : ∃ front, segs = front ++ [[]] := by
  obtain ⟨front, last, rfl⟩ : ∃ front last, segs = front ++ [last] :=
    ⟨_, _, (List.dropLast_append_getLast h.segs_ne_nil).symm⟩
  refine ⟨front, ?_⟩
  by_contra hne
  have hlast : last ≠ [] := by
    rintro rfl
    exact hne rfl
  have htext : u.path.write = (front.flatMap ('/' :: ·) ++ ['/']) ++ last := by
    simp [h.path, Path.write, List.flatMap_map]
  have hmem : '/' ∈ last := by
    apply List.mem_of_getLast?
    rw [← hslash, ← h.getLast?_path hend, htext, List.getLast?_append_of_ne_nil _ hlast]
  have hfree := (h.segs_settled last (by simp)).free '/' hmem
  exact absurd hfree (by decide)

theorem isWebUrl_behind (h : u.IsWebUrl a segs) (hslash : u.write.getLast? = some '/')
    {tail : String} (htail : Settled tail.toList)
    (hquery : ∀ c ∈ tail.toList, keptInQuery true c = true)
    (hfragment : ∀ c ∈ tail.toList, keptInFragment c = true) :
    ∃ segs', (u.behind tail).IsWebUrl a segs' := by
  have happend : ∀ {keep : Char → Bool} {s : String}, (∀ c ∈ s.toList, keep c = true) →
      (∀ c ∈ tail.toList, keep c = true) → ∀ c ∈ (s ++ tail).toList, keep c = true := by
    intro keep s hs ht
    rw [String.toList_append]
    exact List.forall_mem_append.2 ⟨hs, ht⟩
  cases hf : u.fragment with
  | some f =>
    have hbehind : u.behind tail = { u with fragment := some (f ++ tail) } := by
      simp only [behind, hf]
    rw [hbehind]
    refine ⟨segs, { h.toIsWebServer with }, h.query, ?_⟩
    rintro g ⟨⟩
    exact happend (h.fragment f hf) hfragment
  | none =>
    cases hq : u.query with
    | some q =>
      have hbehind : u.behind tail = { u with query := some (q ++ tail) } := by
        simp only [behind, hf, hq]
      rw [hbehind]
      refine ⟨segs, { h.toIsWebServer with }, ?_, h.fragment⟩
      rintro g ⟨⟩
      exact happend (h.query q hq) hquery
    | none =>
      obtain ⟨front, rfl⟩ := h.exists_front ⟨hq, hf⟩ hslash
      rw [behind_of_endsInPath ⟨hq, hf⟩]
      refine ⟨front ++ [tail.toList], ⟨h.scheme, h.authority, h.settled, ?_, by simp, ?_⟩,
        h.query, h.fragment⟩
      · simp [h.path, Path.behind]
      · intro seg hseg
        rcases List.mem_append.1 hseg with hseg | hseg
        · exact h.segs_settled seg (List.mem_append_left _ hseg)
        · rw [List.mem_singleton.1 hseg]
          exact htail

end IsWebUrl

end RdapDirectory.Url

namespace RdapDirectory.Client

open Registry (Kind)
open Settings Url

theorem file_settled (k : Kind) : Settled k.file.toList ∧
    (∀ c ∈ k.file.toList, keptInQuery true c = true) ∧
    ∀ c ∈ k.file.toList, keptInFragment c = true := by
  have hall : k.file.toList.all (fun c => (keptInPath c && !isSlash true c) &&
      (keptInQuery true c && keptInFragment c)) = true := by
    cases k <;> decide
  have hdots : isUp k.file.toList = false ∧ isHere k.file.toList = false := by
    cases k <;> decide
  simp only [List.all_eq_true, Bool.and_eq_true, Bool.not_eq_true'] at hall
  exact ⟨⟨fun c hc => (hall c hc).1.1, fun c hc => (hall c hc).1.2, hdots.1, hdots.2⟩,
    fun c hc => (hall c hc).2.1, fun c hc => (hall c hc).2.2⟩

theorem registryUrl_eq {c : Client} (h : c.settings.baseUrl ≠ defaultBaseUrl)
    (hslash : c.settings.baseUrl.toList.getLast? = some '/') (k : Kind) :
    c.registryUrl k = c.settings.baseUrl ++ k.file := by
  simp [registryUrl, h, hslash]

theorem file_ne_nil (k : Kind) : k.file.toList ≠ [] := by
  cases k <;> decide

theorem length_slashed (cs : List Char) : cs.length ≤ (slashed cs).length := by
  unfold slashed
  split <;> simp

theorem registryUrl_behind {text base : String} (h : normalBaseUrl text = .ok base)
    (hbase : base ≠ defaultBaseUrl) :
    ∃ u, Url.read base = .ok u ∧ u.isWeb = true ∧
      (∀ c : Client, c.settings.baseUrl = base → ∀ k,
        Url.read (c.registryUrl k) = .ok (u.behind k.file)) ∧
      (∀ k : Kind, (u.behind k.file).scheme = u.scheme ∧
        (u.behind k.file).authority = u.authority) ∧
      (u.EndsInPath → ∀ k : Kind,
        (u.behind k.file).path.write = slashed u.path.write ++ k.file.toList) ∧
      (¬ u.EndsInPath → ∀ k : Kind, (u.behind k.file).path = u.path ∧
        (u.behind k.file).path.write ≠ slashed u.path.write ++ k.file.toList) ∧
      ((∀ j k : Kind, j ≠ k → (u.behind j.file).path ≠ (u.behind k.file).path) ↔
        u.EndsInPath) := by
  obtain ⟨u, a, segs, hurl, rfl, hslash⟩ := exists_of_normalBaseUrl h
  have hlast : u.text.toList.getLast? = some '/' := by
    rw [Url.text, String.toList_ofList, hslash]
  have hlonger : u.EndsInPath → ∀ k : Kind,
      (u.behind k.file).path.write = slashed u.path.write ++ k.file.toList := by
    intro hend k
    have hpath : u.path.write.getLast? = some '/' := by
      rw [hurl.getLast?_path hend, hslash]
    rw [behind_of_endsInPath hend, slashed, if_pos hpath, hurl.path]
    exact Path.write_behind hurl.segments_ne_nil k.file
  refine ⟨u, ?_, ?_, ?_, fun k => behind_server u k.file, hlonger, fun hend k => ?_, ?_⟩
  · rw [Url.read, Url.text, String.toList_ofList, hurl.readChars_write]
  · simpa [isWeb] using hurl.scheme
  · intro c hc k
    obtain ⟨hsettled, hquery, hfragment⟩ := file_settled k
    obtain ⟨segs', hbehind⟩ := hurl.isWebUrl_behind hslash hsettled hquery hfragment
    have htext : c.registryUrl k = (u.behind k.file).text := by
      rw [registryUrl_eq (hc ▸ hbase) (hc ▸ hlast), hc, Url.text, Url.text,
        hurl.write_behind, String.ofList_append, String.ofList_toList]
    rw [htext, Url.read, Url.text, String.toList_ofList, hbehind.readChars_write]
  · have hsame := path_behind hend k.file
    refine ⟨hsame, fun he => ?_⟩
    have hlength := congrArg List.length he
    have hpos := List.length_pos_of_ne_nil (file_ne_nil k)
    have hle := length_slashed u.path.write
    rw [hsame, List.length_append] at hlength
    omega
  · constructor
    · intro hapart
      by_contra hend
      apply hapart .dns .asn (by decide)
      rw [path_behind hend, path_behind hend]
    · intro hend j k hne he
      have hwrite := hlonger hend j
      rw [he, hlonger hend k, List.append_cancel_left_eq] at hwrite
      exact hne (Kind.file_inj.1 (String.toList_inj.1 hwrite)).symm

def mirror (baseUrl : String) : Client := withParts { initial with baseUrl } (.memory (.empty 0))

theorem registryUrl_behind_mirror :
    normalBaseUrl " HTTPS://me@Mirror.example:8443/rdap" =
        .ok "https://me@mirror.example:8443/rdap/" ∧
      ∃ v, Url.read ((mirror "https://me@mirror.example:8443/rdap/").registryUrl .dns) = .ok v ∧
        v.path.write = "/rdap/dns.json".toList := by
  have hurl : normalBaseUrl " HTTPS://me@Mirror.example:8443/rdap" =
      .ok "https://me@mirror.example:8443/rdap/" := by
    decide +kernel
  have hparts : (Url.read "https://me@mirror.example:8443/rdap/").map
      (fun u => (u.path.write, u.query, u.fragment)) = .ok ("/rdap/".toList, none, none) := by
    decide +kernel
  obtain ⟨u, hu, -, hread, -, hlonger, -, -⟩ := registryUrl_behind hurl (by decide)
  obtain ⟨hpath, hquery, hfragment⟩ : u.path.write = "/rdap/".toList ∧ u.query = none ∧
      u.fragment = none := by
    simpa [hu, Except.map] using hparts
  refine ⟨hurl, _, hread _ rfl .dns, ?_⟩
  rw [hlonger ⟨hquery, hfragment⟩, hpath]
  decide

theorem query_takes_files :
    normalBaseUrl "https://mirror.example/rdap?v=1" = .ok "https://mirror.example/rdap?v=1/" ∧
      "https://mirror.example/rdap?v=1/" ≠ defaultBaseUrl ∧
      ∃ u, Url.read "https://mirror.example/rdap?v=1/" = .ok u ∧ ∀ k, ∃ v,
        Url.read ((mirror "https://mirror.example/rdap?v=1/").registryUrl k) = .ok v ∧
          v.path = u.path ∧ v.path.write ≠ slashed u.path.write ++ k.file.toList := by
  have hbase : (Url.read "https://mirror.example/rdap?v=1/").map (·.path) =
      .ok (.steps ["rdap"]) := by
    decide +kernel
  have hpaths : ∀ k, (Url.read ((mirror "https://mirror.example/rdap?v=1/").registryUrl k)).map
      (·.path) = .ok (.steps ["rdap"]) := by
    intro k
    cases k <;> decide +kernel
  obtain ⟨u, hu, hpath⟩ := Registry.exists_of_map hbase
  refine ⟨by decide +kernel, by decide, u, hu, fun k => ?_⟩
  obtain ⟨v, hv, hpath'⟩ := Registry.exists_of_map (hpaths k)
  refine ⟨v, hv, hpath'.trans hpath.symm, ?_⟩
  rw [hpath', hpath]
  cases k <;> decide

end RdapDirectory.Client
