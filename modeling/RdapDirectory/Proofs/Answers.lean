import RdapDirectory.Proofs.Detection
import RdapDirectory.Proofs.SmallLetters

namespace RdapDirectory.Registry

open Text

namespace Entries

theorem mem_of_find? {e : Entries} {key : String} {urls : List Url}
    (h : e.find? key = some urls) : (key, urls) ∈ e.items := by
  obtain ⟨i, hi, rfl⟩ := Option.map_eq_some_iff.1 h
  have hkey : i.1 = key := by simpa using List.find?_some hi
  exact hkey ▸ List.mem_of_find?_eq_some hi

theorem eq_of_key_eq {e : Entries} {i j : Item} (hi : i ∈ e.items) (hj : j ∈ e.items)
    (h : i.1 = j.1) : i = j := by
  have hless : ∀ {a b : Item}, a.1 < b.1 → a.1 ≠ b.1 := fun h he => String.lt_irrefl _ (he ▸ h)
  exact List.Pairwise.forall_of_forall_of_flip (R := fun i j : Item => i.1 = j.1 → i = j)
    (fun _ _ _ => rfl) (e.sorted.imp fun h he => absurd he (hless h))
    (e.sorted.imp fun h he => absurd he.symm (hless h)) hi hj h

theorem find?_of_mem {e : Entries} {i : Item} (h : i ∈ e.items) : e.find? i.1 = some i.2 := by
  cases hf : e.items.find? (·.1 = i.1) with
  | none => exact absurd (List.find?_eq_none.1 hf i h) (by simp)
  | some j =>
    have hkey : j.1 = i.1 := by simpa using List.find?_some hf
    unfold find?
    rw [hf, eq_of_key_eq (List.mem_of_find?_eq_some hf) h hkey]
    rfl

end Entries

namespace File

theorem urls_ne_nil_of_serve {e : Entries} (he : ∀ i ∈ e.items, i.2 ≠ []) (keys : List String)
    (urls : List Url) : ∀ i ∈ (serve e keys urls).items, i.2 ≠ [] := by
  unfold serve
  split
  · exact he
  · rename_i hu
    induction keys generalizing e with
    | nil => exact he
    | cons key keys ih =>
      refine ih fun i hi => ?_
      rcases mem_put hi with rfl | hi
      · simpa using hu
      · exact he i hi

theorem urls_ne_nil_of_collect {index : Nat} {e f : Entries} {services : List Service}
    (h : collect index e services = .ok f) (he : ∀ i ∈ e.items, i.2 ≠ []) :
    ∀ i ∈ f.items, i.2 ≠ [] := by
  fun_induction collect index e services with
  | case1 => cases h; exact he
  | case2 index e keys texts rest ih => exact ih h (urls_ne_nil_of_serve he keys _)
  | case3 => cases h

theorem urls_ne_nil {bytes : List UInt8} {f : File} (h : File.read bytes = .ok f) :
    ∀ i ∈ f.entries.items, i.2 ≠ [] := by
  unfold File.read at h
  split at h
  · unfold ofDocument at h
    split at h
    · cases h
    · obtain ⟨e, he, rfl⟩ := exists_of_map h
      exact urls_ne_nil_of_collect he nofun
  · cases h

end File

def ofFile : Kind → File → Registry
  | .dns, f => domains ⟨f⟩
  | .ipv4, f => networks (.ofFile .v4 f)
  | .ipv6, f => networks (.ofFile .v6 f)
  | .asn, f => systems (.ofFile f)
  | .serviceProvider, f => tags ⟨f⟩

theorem exists_of_bind {α β : Type} {x : Except Failure α} {f : α → Except Failure β} {b : β}
    (h : x >>= f = .ok b) : ∃ a, x = .ok a ∧ f a = .ok b := by
  cases x with
  | error e => cases h
  | ok a => exact ⟨a, rfl, h⟩

theorem exists_file {k : Kind} {bytes : List UInt8} {r : Registry} (h : read k bytes = .ok r) :
    ∃ f, File.read bytes = .ok f ∧ r = ofFile k f := by
  unfold read at h
  split at h
  · cases h
  · cases k with
    | dns | asn | serviceProvider =>
      obtain ⟨d, hd, rfl⟩ := exists_of_map h
      obtain ⟨f, hf, rfl⟩ := exists_of_map hd
      exact ⟨f, hf, rfl⟩
    | ipv4 | ipv6 =>
      obtain ⟨n, hn, rfl⟩ := exists_of_map h
      obtain ⟨f, hf, rfl⟩ := exists_of_map hn
      exact ⟨f, hf, rfl⟩

/-- An item stands for what an answer writes of it, in whatever form its key is written. -/
def Denotes (k : Kind) (i : Item) (entry : String) : Prop :=
  match k with
  | .dns | .serviceProvider => i.1 = entry
  | .ipv4 => ∃ h, Holding.ofItem? .v4 i = some h ∧ h.network.text = entry
  | .ipv6 => ∃ h, Holding.ofItem? .v6 i = some h ∧ h.network.text = entry
  | .asn => ∃ r, Range.ofItem? i = some r ∧ r.text = entry

def Tells (k : Kind) (f : File) (a : Answer) : Prop :=
  a = .noMatch a.query ∨ ∃ i ∈ f.entries.items, a.urls = i.2 ∧ Denotes k i a.entry

namespace Domains

theorem lookup_tells (d : Domains) (query : String) :
    Tells .dns d.file (d.lookup query) ∧ (d.lookup query).query = canonical query := by
  unfold lookup
  dsimp only
  cases hf : (candidates (canonical query).toList).findSome? fun cs =>
      (d.file.entries.find? (.ofList cs)).map (Answer.mk (canonical query) (.ofList cs)) with
  | none => exact ⟨.inl rfl, rfl⟩
  | some a =>
    obtain ⟨cs, -, ha⟩ := List.exists_of_findSome?_eq_some hf
    obtain ⟨urls, hurls, rfl⟩ := Option.map_eq_some_iff.1 ha
    exact ⟨.inr ⟨_, Entries.mem_of_find? hurls, rfl, rfl⟩, rfl⟩

theorem canonical_of_not_dot {s : String} (h : s.toList.getLast? ≠ some '.') :
    canonical s = lower s := by
  simp only [canonical, if_neg h, String.ofList_toList]

theorem canonical_dot (s : String) : canonical (s ++ ".") = lower s := by
  have hlast : (s ++ ".").toList = s.toList ++ ['.'] := by simp
  simp only [canonical, hlast, List.getLast?_concat, if_true, List.dropLast_concat,
    String.ofList_toList]

theorem exists_stem {s : String} (h : s.toList.getLast? = some '.') :
    ∃ stem : String, s = stem ++ "." := by
  obtain ⟨cs, hcs⟩ := List.getLast?_eq_some_iff.1 h
  refine ⟨.ofList cs, String.toList_inj.1 ?_⟩
  rw [hcs]
  simp

theorem getLast?_lower {s : String} (h : s.toList.getLast? ≠ some '.') :
    (lower s).toList.getLast? ≠ some '.' := by
  rw [lower, String.toList_ofList]
  exact fun hdot => h (getLast?_of_lowerFrom hdot)

theorem canonical_lower {s : String} (h : s.toList.getLast? ≠ some '.') :
    canonical (lower s) = lower s := by
  rw [canonical_of_not_dot (getLast?_lower h), lower_lower]

theorem canonical_canonical {query : String} (h : ¬ ['.', '.'] <:+ query.toList) :
    canonical (canonical query) = canonical query := by
  by_cases hlast : query.toList.getLast? = some '.'
  · obtain ⟨stem, rfl⟩ := exists_stem hlast
    rw [canonical_dot]
    apply canonical_lower
    intro hdot
    obtain ⟨stem, rfl⟩ := exists_stem hdot
    have hdots : (stem ++ "." ++ ".").toList = stem.toList ++ ['.', '.'] := by simp
    rw [hdots] at h
    exact h (List.suffix_append _ _)
  · rw [canonical_of_not_dot hlast]
    exact canonical_lower hlast

theorem lookup_canonical (d : Domains) {query : String} (h : ¬ ['.', '.'] <:+ query.toList) :
    d.lookup (canonical query) = d.lookup query := by
  unfold lookup
  rw [canonical_canonical h]

end Domains

theorem Tags.lookup_tells (t : Tags) (query : String) :
    Tells .serviceProvider t.file (t.lookup query) ∧ (t.lookup query).query = query := by
  unfold lookup
  split
  · exact ⟨.inl rfl, rfl⟩
  · split
    · rename_i urls hurls
      exact ⟨.inr ⟨_, Entries.mem_of_find? hurls, rfl, rfl⟩, rfl⟩
    · exact ⟨.inl rfl, rfl⟩

namespace Systems

theorem urls_of_ofItem? {i : Item} {r : Range} (h : Range.ofItem? i = some r) : r.urls = i.2 := by
  have hbetween : ∀ a b, (Range.between a b i.2).urls = i.2 := by
    intro a b
    unfold Range.between
    split <;> rfl
  unfold Range.ofItem? at h
  split at h
  · obtain ⟨a, -, h⟩ := Option.bind_eq_some_iff.1 h
    obtain ⟨b, -, h⟩ := Option.bind_eq_some_iff.1 h
    cases h
    exact hbetween a b
  · obtain ⟨n, -, rfl⟩ := Option.map_eq_some_iff.1 h
    exact hbetween n n

theorem exists_item {f : File} {n : Nat} {r : Range} (h : (ofFile f).ranges[n]? = some r) :
    ∃ i ∈ f.entries.items, r.urls = i.2 ∧ Range.ofItem? i = some r := by
  have hmem := List.mem_of_getElem? ((List.getElem?_toArray ..).symm.trans h)
  obtain ⟨i, hi, hr⟩ := List.mem_filterMap.1 (List.mem_mergeSort.1 hmem)
  exact ⟨i, hi, urls_of_ofItem? hr, hr⟩

theorem lookup_tells {f : File} {query : String} {a : Answer}
    (h : (ofFile f).lookup query = .ok a) :
    Tells .asn f a ∧ ∃ n, number? query = .ok n ∧ a.query = systemText n := by
  unfold lookup at h
  cases hn : number? query with
  | error e =>
    rw [hn] at h
    cases h
  | ok n =>
    rw [hn] at h
    simp only [bind, Except.bind] at h
    split at h
    · rename_i r hr
      obtain ⟨i, hi, hurls, hitem⟩ := exists_item hr
      split at h <;> cases h
      · exact ⟨.inr ⟨i, hi, hurls, r, hitem, rfl⟩, n, rfl, rfl⟩
      · exact ⟨.inl rfl, n, rfl, rfl⟩
    · cases h
      exact ⟨.inl rfl, n, rfl, rfl⟩

end Systems

namespace Networks

theorem urls_of_ofItem? {family : Ip.Family} {i : Item} {h : Holding}
    (hi : Holding.ofItem? family i = some h) : h.urls = i.2 := by
  obtain ⟨b, -, hb⟩ := Option.bind_eq_some_iff.1 hi
  split at hb <;> cases hb
  rfl

theorem exists_item {family : Ip.Family} {f : File} {b : Ip.Block} {h : Holding}
    (hc : (ofFile family f).covering? b = some h) :
    ∃ i ∈ f.entries.items, h.urls = i.2 ∧ Holding.ofItem? family i = some h := by
  obtain ⟨bucket, hbucket, hfound⟩ := List.exists_of_findSome?_eq_some hc
  obtain ⟨length, -, rfl⟩ := List.mem_map.1 (List.mem_filter.1 hbucket).1
  unfold Bucket.find? at hfound
  split at hfound
  · cases hfound
  · obtain ⟨hget, -⟩ := Option.filter_eq_some_iff.1 hfound
    have hmem := List.mem_of_getElem? ((List.getElem?_toArray ..).symm.trans hget)
    obtain ⟨hown, -⟩ := List.mem_filter.1 (List.mem_mergeSort.1 hmem)
    obtain ⟨i, hi, hh⟩ := List.mem_filterMap.1 hown
    exact ⟨i, hi, urls_of_ofItem? hh, hh⟩

theorem block_of_lookup {n : Networks} {query : String} {a : Answer}
    (h : n.lookup query = .ok a) : ∃ text b, Ip.Block.read? text.toList = some b ∧
      b.family = n.family ∧ a = answer text (n.covering? b) := by
  unfold lookup at h
  obtain ⟨text, -, h⟩ := exists_of_bind h
  obtain ⟨b, hblock, h⟩ := exists_of_bind h
  have hb : Ip.Block.read? text.toList = some b := by
    unfold block? at hblock
    split at hblock <;> cases hblock
    assumption
  dsimp only at h
  by_cases hf : b.family ≠ n.family
  · rw [if_pos hf] at h
    cases h
  · rw [if_neg hf] at h
    refine ⟨text, b, hb, not_not.1 hf, ?_⟩
    unfold answer covering?
    split at h <;> cases h <;> simp only [*]

theorem answer_query (text : String) (h : Option Holding) : (answer text h).query = text := by
  cases h <;> rfl

theorem lookup_query {n : Networks} {query : String} {a : Answer}
    (h : n.lookup query = .ok a) : n.lookup a.query = .ok a := by
  obtain ⟨text, b, hb, hf, rfl⟩ := block_of_lookup h
  rw [answer_query]
  exact lookup_block hb hf

theorem item_of_lookup {family : Ip.Family} {f : File} {query : String} {a : Answer}
    (h : (ofFile family f).lookup query = .ok a) :
    a = .noMatch a.query ∨ ∃ i ∈ f.entries.items, a.urls = i.2 ∧
      ∃ h, Holding.ofItem? family i = some h ∧ h.network.text = a.entry := by
  obtain ⟨text, b, -, -, rfl⟩ := block_of_lookup h
  cases hc : (ofFile family f).covering? b with
  | none => exact .inl rfl
  | some h =>
    obtain ⟨i, hi, hurls, hitem⟩ := exists_item hc
    exact .inr ⟨i, hi, hurls, h, hitem, rfl⟩

end Networks

theorem tells_of_lookup {k : Kind} {f : File} {query : String} {a : Answer}
    (h : (ofFile k f).lookup query = .ok a) :
    Tells k f a ∧ ((k = .dns → ¬ ['.', '.'] <:+ query.toList) →
      (ofFile k f).lookup a.query = .ok a) := by
  cases k with
  | dns =>
    cases h
    obtain ⟨htells, hquery⟩ := Domains.lookup_tells ⟨f⟩ query
    refine ⟨htells, fun hdots => ?_⟩
    rw [hquery]
    exact congrArg Except.ok (Domains.lookup_canonical ⟨f⟩ (hdots rfl))
  | ipv4 | ipv6 => exact ⟨Networks.item_of_lookup h, fun _ => Networks.lookup_query h⟩
  | asn =>
    obtain ⟨htells, n, hn, hquery⟩ := Systems.lookup_tells h
    refine ⟨htells, fun _ => ?_⟩
    rw [hquery]
    exact (Systems.lookup_ok _ hn).symm.trans h
  | serviceProvider =>
    cases h
    obtain ⟨htells, hquery⟩ := Tags.lookup_tells ⟨f⟩ query
    refine ⟨htells, fun _ => ?_⟩
    rw [hquery]
    rfl

theorem file_ofFile (k : Kind) (f : File) : (ofFile k f).file = f := by cases k <;> rfl

theorem lookup_consistent {k : Kind} {bytes : List UInt8} {reg : Registry} {query : String}
    {a : Answer} (hr : read k bytes = .ok reg) (ha : reg.lookup query = .ok a) :
    (a.isMatch = true ↔ a.urls ≠ []) ∧
    (a.isMatch = true → ∃ key, reg.file.entries.find? key = some a.urls ∧
      Denotes k (key, a.urls) a.entry) ∧
    ((k = .dns → ¬ ['.', '.'] <:+ query.toList) → reg.lookup a.query = .ok a) := by
  obtain ⟨f, hf, rfl⟩ := exists_file hr
  obtain ⟨htells, hself⟩ := tells_of_lookup ha
  rw [file_ofFile]
  rcases htells with hnone | ⟨i, hi, hurls, hentry⟩
  · have hmatch : a.isMatch = false := by
      rw [hnone]
      rfl
    have hempty : a.urls = [] := by rw [hnone]; rfl
    rw [hmatch, hempty]
    exact ⟨by decide, nofun, hself⟩
  · have hne : a.urls ≠ [] := hurls ▸ File.urls_ne_nil hf i hi
    have hmatch : a.isMatch = true := by simp [Answer.isMatch, hne]
    refine ⟨⟨fun _ => hne, fun _ => hmatch⟩, fun _ => ⟨i.1, ?_, ?_⟩, hself⟩
    · rw [hurls]
      exact Entries.find?_of_mem hi
    · rw [hurls]
      exact hentry

theorem lookup_consistent_cz : ∃ reg a, read .dns czServers = .ok reg ∧
    reg.lookup "Example.CZ." = .ok a ∧ a.query = "example.cz" ∧ reg.lookup "example.cz" = .ok a ∧
    a.urls ≠ [] ∧ reg.file.entries.find? "cz" = some a.urls := by
  have hlookup : (read .dns czServers >>= fun reg => reg.lookup "Example.CZ.").map
      (fun a => (a.query, a.entry, a.isMatch)) = .ok ("example.cz", "cz", true) := by
    decide +kernel
  obtain ⟨a, hbind, hanswer⟩ := exists_of_map hlookup
  obtain ⟨reg, hread, ha⟩ := exists_of_bind hbind
  simp only [Prod.mk.injEq] at hanswer
  obtain ⟨hquery, hentry, hmatch⟩ := hanswer
  obtain ⟨hurls, hkey, hself⟩ := lookup_consistent hread ha
  obtain ⟨key, hfind, hdenotes⟩ := hkey hmatch
  have hcz : key = "cz" := Eq.trans hdenotes hentry
  have hdots : ¬ ['.', '.'] <:+ "Example.CZ.".toList := by decide
  exact ⟨reg, a, hread, ha, hquery, hquery ▸ hself fun _ => hdots, hurls.1 hmatch, hcz ▸ hfind⟩

end RdapDirectory.Registry
