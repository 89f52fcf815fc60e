import RdapDirectory.Proofs.Registries
import RdapDirectory.Proofs.RequestTexts

namespace RdapDirectory.Request

open Text Url

namespace Subject

def landing (s : Subject) : List Char :=
  match s.named? with
  | some (kind, name) =>
    if name = "." then kind.toList ++ ['/'] else if name = ".." then [] else s.uri
  | none => s.uri

theorem landing_of_none {s : Subject} (h : s.named? = none) : s.landing = s.uri := by
  simp [landing, h]

theorem landing_of_some {s : Subject} {kind name : String} (h : s.named? = some (kind, name)) :
    s.landing =
      if name = "." then kind.toList ++ ['/'] else if name = ".." then [] else s.uri := by
  simp [landing, h]

def heard? (name : String) : Option String :=
  if name = "." then some "" else if name = ".." then none else some name

theorem landing_of_heard {s : Subject} {kind name : String} (h : s.named? = some (kind, name)) :
    s.landing = (heard? name).elim [] fun n =>
      List.intercalate ['/'] [kind.toList, escape isPathSafe n.toList] := by
  obtain ⟨hparts, hquery, -, -, -⟩ := parts_of_named h
  rw [landing_of_some h]
  unfold heard?
  split
  · rw [Option.elim_some, intercalate_pair]
    rfl
  · split
    · rfl
    · rw [Option.elim_some, s.uri_eq, hparts, hquery, queryText, List.append_nil]

theorem heard?_eq_iff {name name' : String} (hne : name ≠ name') :
    heard? name = heard? name' ↔ name = "." ∧ name' = "" ∨ name' = "." ∧ name = "" := by
  unfold heard?
  grind

/-- One is named by a dot and the other by nothing. -/
def IsDotFor (s s' : Subject) : Prop :=
  ∃ kind, s.named? = some (kind, ".") ∧ s'.named? = some (kind, "")

theorem landing_eq_iff_of_named {s s' : Subject} {kind name name' : String}
    (h : s.named? = some (kind, name)) (h' : s'.named? = some (kind, name'))
    (hne : name ≠ name') : s.landing = s'.landing ↔ s.IsDotFor s' ∨ s'.IsDotFor s := by
  have hheard : s.landing = s'.landing ↔ heard? name = heard? name' := by
    rw [landing_of_heard h, landing_of_heard h']
    constructor
    · intro he
      cases hn : heard? name with
      | none =>
        cases hn' : heard? name' with
        | none => rfl
        | some n' => simp [hn, hn'] at he
      | some n =>
        cases hn' : heard? name' with
        | none => simp [hn, hn'] at he
        | some n' =>
          rw [hn, hn', Option.elim_some, Option.elim_some, intercalate_pair, intercalate_pair] at he
          have htail := (List.cons.inj (List.append_cancel_left he)).2
          have hsame := escape_injective (by decide) htail
          rw [String.toList_inj.1 hsame]
    · intro he
      rw [he]
  rw [hheard, heard?_eq_iff hne]
  simp [IsDotFor, h, h']

theorem landing_eq_iff {s s' : Subject} (hkind : s.kind = s'.kind) (htext : s.text ≠ s'.text) :
    s.landing = s'.landing ↔ s.IsDotFor s' ∨ s'.IsDotFor s := by
  by_cases hmem : s.kind ∈ namedKinds
  · have h : s.named? = some (s.kind, s.text) := by rw [named?_eq, if_pos hmem]
    have h' : s'.named? = some (s.kind, s'.text) := by rw [named?_eq, ← hkind, if_pos hmem]
    exact landing_eq_iff_of_named h h' htext
  · have h : s.named? = none := by rw [named?_eq, if_neg hmem]
    have h' : s'.named? = none := by rw [named?_eq, ← hkind, if_neg hmem]
    rw [landing_of_none h, landing_of_none h']
    constructor
    · intro he
      exact absurd (uri_injective hkind he) htext
    · rintro (⟨_, hdot, -⟩ | ⟨_, hdot, -⟩)
      · cases h.symm.trans hdot
      · cases h'.symm.trans hdot

end Subject

section Places

variable {scheme : String} {a : Authority} {front : List (List Char)}

theorem webText_append (parts : List (List Char)) (hne : parts ≠ []) (query : Option (List Char)) :
    webText scheme a (front ++ parts) query =
      webText scheme a front none ++ ['/'] ++
        (List.intercalate ['/'] parts ++ queryText query) := by
  simp [webText, bodyText, pathText_append, pathText_eq hne, queryText]

theorem up_kind {kind : String} (h : kind ∈ namedKinds) :
    up (front ++ [kind.toList]) = front := by
  have hdrive : isDriveFirst kind.toList = false := by
    simp only [namedKinds, List.mem_cons, List.not_mem_nil, or_false] at h
    rcases h with rfl | rfl | rfl <;> decide
  have hlast : (front ++ [kind.toList]).getLast? = some kind.toList := List.getLast?_concat
  unfold up
  rw [hlast]
  simp [hdrive]

theorem walk_of_settled (hfront : ∀ seg ∈ front, Settled seg) {parts : List (List Char)}
    (hparts : ∀ part ∈ parts, Settled part) :
    walk false [] (front ++ parts) = front ++ parts :=
  walk_eq_self fun seg hseg => (List.mem_append.1 hseg).elim (hfront seg) (hparts seg)

theorem walk_of_named (hfront : ∀ seg ∈ front, Settled seg) {kind : String}
    (hkind : kind ∈ namedKinds) (rest : List (List Char)) :
    walk false [] (front ++ kind.toList :: rest) = walk false (front ++ [kind.toList]) rest := by
  have hsettled : ∀ seg ∈ front ++ [kind.toList], Settled seg := by
    intro seg hseg
    rcases List.mem_append.1 hseg with hseg | hseg
    · exact hfront seg hseg
    · rw [List.mem_singleton.1 hseg]
      exact Subject.kind_settled hkind
  have hstep : walk false [] (front ++ [kind.toList] ++ rest) =
      walk false ([] ++ (front ++ [kind.toList])) rest := walk_append hsettled rest
  simpa using hstep

theorem webText_walk (hfront : ∀ seg ∈ front, Settled seg) (s : Subject) :
    webText scheme a (walk false [] (front ++ s.parts)) s.query? =
      webText scheme a front none ++ ['/'] ++ s.landing := by
  have hsettled : (∀ part ∈ s.parts, Settled part) → s.landing = s.uri →
      webText scheme a (walk false [] (front ++ s.parts)) s.query? =
        webText scheme a front none ++ ['/'] ++ s.landing := by
    intro hparts hlanding
    rw [walk_of_settled hfront hparts, webText_append s.parts s.parts_ne_nil, hlanding, s.uri_eq]
  cases hnamed : s.named? with
  | none => exact hsettled (Subject.settled_of_not_named hnamed) (Subject.landing_of_none hnamed)
  | some x =>
    obtain ⟨kind, name⟩ := x
    obtain ⟨hparts, hquery, -, -, hkind⟩ := Subject.parts_of_named hnamed
    have hlanding := Subject.landing_of_some hnamed
    by_cases hone : name = "."
    -- A dot ends the path behind the kind, and two dots take the kind away as well.
    · subst hone
      have hwalk : walk false [] (front ++ s.parts) = front ++ [kind.toList, []] := by
        rw [hparts, walk_of_named hfront hkind]
        change front ++ [kind.toList] ++ [[]] = front ++ [kind.toList, []]
        rw [List.append_assoc, List.singleton_append]
      rw [hwalk, hquery, hlanding, if_pos rfl, webText_append _ (by simp),
        Subject.intercalate_pair, queryText, List.append_nil]
    · by_cases htwo : name = ".."
      · subst htwo
        have hwalk : walk false [] (front ++ s.parts) = front ++ [[]] := by
          rw [hparts, walk_of_named hfront hkind]
          change up (front ++ [kind.toList]) ++ [[]] = front ++ [[]]
          rw [up_kind hkind]
        rw [hwalk, hquery, hlanding, if_neg (by decide), if_pos rfl, webText_append _ (by simp),
          List.intercalate_singleton, queryText, List.append_nil]
      · apply hsettled
        · rw [hparts]
          intro part hpart
          simp only [List.mem_cons, List.not_mem_nil, or_false] at hpart
          rcases hpart with rfl | rfl
          · exact Subject.kind_settled hkind
          · exact name_settled hone htwo
        · rw [hlanding, if_neg hone, if_neg htwo]

end Places

theorem place_web {server : Url} {a : Authority} {segs : List (List Char)}
    (h : server.IsWebServer a segs) :
    ∃ urlFor : Subject → Url, (∀ s, (unplaced s).place server = .ok (placed s (urlFor s))) ∧
      ∀ s, (urlFor s).write = baseOf server ++ s.landing := by
  obtain ⟨front, hfront, hbase⟩ := exists_base h
  refine ⟨fun s => webUrl server.scheme a (walk false [] (front ++ s.parts)) s.query?, ?_, ?_⟩
  · intro s
    have hne : front ++ s.parts ≠ [] := by simp [s.parts_ne_nil]
    have hplain : ArePlain (front ++ s.parts) := by
      intro part hpart
      rcases List.mem_append.1 hpart with hpart | hpart
      · exact arePlain_of_settled hfront part hpart
      · exact s.parts_plain part hpart
    have htext : baseOf server ++ s.uri =
        webText server.scheme a (front ++ s.parts) s.query? := by
      rw [hbase, s.uri_eq, webText_append _ s.parts_ne_nil]
    have hread := readChars_webText h.scheme h.settled hne hplain s.query_kept
    unfold place
    dsimp only
    rw [htext, hread]
  · intro s
    rw [write_webUrl, webText_walk hfront, hbase]

theorem place_keeps_text {text : String} {server : Url} (h : Url.read text = .ok server)
    (hweb : server.isWeb = true) :
    ∃ urlFor : Subject → Url, (∀ s, (unplaced s).place server = .ok (placed s (urlFor s))) ∧
      (∀ s, (urlFor s).write = baseOf server ++ s.landing) ∧
      ∀ s s' : Subject, s.kind = s'.kind → s.text ≠ s'.text →
        ((urlFor s).write = (urlFor s').write ↔ s.IsDotFor s' ∨ s'.IsDotFor s) := by
  obtain ⟨a, segs, hserver⟩ := exists_isWebServer h hweb
  obtain ⟨urlFor, hplace, hwrite⟩ := place_web hserver
  refine ⟨urlFor, hplace, hwrite, fun s s' hkind htext => ?_⟩
  rw [hwrite, hwrite, List.append_cancel_left_eq]
  exact Subject.landing_eq_iff hkind htext

theorem place_keeps_text_below :
    ∃ server, Url.read "https://rdap.example/rdap?x" = .ok server ∧ server.isWeb = true ∧
      ∃ u, (unplaced (.entity "A B/C")).place server = .ok (placed (.entity "A B/C") u) ∧
        u.write = "https://rdap.example/rdap/entity/A%20B%2FC".toList := by
  have hread : (Url.read "https://rdap.example/rdap?x").map (fun u => (u.isWeb, baseOf u)) =
      .ok (true, "https://rdap.example/rdap/".toList) := by
    decide +kernel
  have hlanding : (Subject.entity "A B/C").landing = "entity/A%20B%2FC".toList := by
    decide +kernel
  obtain ⟨server, h, hserver⟩ := Registry.exists_of_map hread
  obtain ⟨hweb, hbase⟩ := Prod.mk.inj hserver
  obtain ⟨urlFor, hplace, hwrite, -⟩ := place_keeps_text h hweb
  refine ⟨server, h, hweb, urlFor (.entity "A B/C"), hplace _, ?_⟩
  rw [hwrite, hbase, hlanding]
  decide

theorem dots_are_lost :
    ∃ server, Url.read "https://rdap.example/" = .ok server ∧ server.isWeb = true ∧
      (∃ u, (unplaced (.entity "..")).place server = .ok (placed (.entity "..") u) ∧
        u.write = baseOf server ∧ u.write ≠ baseOf server ++ (Subject.entity "..").uri) ∧
      ∃ u v, (unplaced (.domain ".")).place server = .ok (placed (.domain ".") u) ∧
        (unplaced (.domain "")).place server = .ok (placed (.domain "") v) ∧ u.write = v.write := by
  have hread : (Url.read "https://rdap.example/").map Url.isWeb = .ok true := by decide +kernel
  obtain ⟨server, h, hweb⟩ := Registry.exists_of_map hread
  obtain ⟨a, segs, hserver⟩ := exists_isWebServer h hweb
  obtain ⟨urlFor, hplace, hwrite⟩ := place_web hserver
  have hnothing : (Subject.entity "..").landing = [] := by decide
  have hsame : (Subject.domain ".").landing = (Subject.domain "").landing := by decide
  have hup : (urlFor (.entity "..")).write = baseOf server := by
    rw [hwrite, hnothing, List.append_nil]
  have hlost : baseOf server ≠ baseOf server ++ (Subject.entity "..").uri := by
    have huri : (Subject.entity "..").uri ≠ [] := by decide
    intro he
    exact huri (List.self_eq_append_right.1 he)
  have hdot : (urlFor (.domain ".")).write = (urlFor (.domain "")).write := by
    rw [hwrite, hwrite, hsame]
  exact ⟨server, h, hweb, ⟨_, hplace _, hup, fun he => hlost (hup.symm.trans he)⟩, _, _,
    hplace _, hplace _, hdot⟩

end RdapDirectory.Request
