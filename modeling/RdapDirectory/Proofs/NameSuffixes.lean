import RdapDirectory.Proofs.LetterCases
import RdapDirectory.Proofs.Offers

/-!
The lookup of a domain name finds the longest registered suffix of it that starts at a label. One
dot at the end has no part in it, and letter case none but for the sigma at the end of a word.
-/

namespace RdapDirectory.Registry

open Text

namespace Domains

/-- A key covers itself, the names that end in it behind a dot, and all names if it is the root. -/
def Covers (key name : String) : Prop :=
  key = name ∨ (∃ front, name.toList = front ++ '.' :: key.toList) ∨ key = ""

theorem mem_afterDots {name cs : List Char} :
    cs ∈ afterDots name ↔ ∃ front, name = front ++ '.' :: cs := by
  induction name with
  | nil => simp [afterDots]
  | cons c r ih =>
    have hshift : (∃ front, c :: r = front ++ '.' :: cs) ↔
        c = '.' ∧ r = cs ∨ ∃ front, r = front ++ '.' :: cs := by
      constructor
      · rintro ⟨front, h⟩
        cases front with
        | nil => exact .inl (List.cons.inj h)
        | cons d front => exact .inr ⟨front, (List.cons.inj h).2⟩
      · rintro (⟨rfl, rfl⟩ | ⟨front, rfl⟩)
        · exact ⟨[], rfl⟩
        · exact ⟨c :: front, rfl⟩
    rw [hshift, ← ih, afterDots]
    by_cases hc : c = '.'
    · rw [if_pos hc, List.mem_cons, eq_comm]
      simp [hc]
    · rw [if_neg hc]
      simp [hc]

theorem mem_candidates {key name : String} :
    key.toList ∈ candidates name.toList ↔ Covers key name := by
  simp only [candidates, List.mem_append, List.mem_cons, List.not_mem_nil, or_false, mem_afterDots,
    String.toList_inj, String.toList_eq_nil_iff, or_assoc, Covers]

theorem length_of_afterDots {name cs : List Char} (h : cs ∈ afterDots name) :
    cs.length < name.length := by
  obtain ⟨front, rfl⟩ := mem_afterDots.1 h
  simp
  omega

theorem afterDots_descending (name : List Char) :
    (afterDots name).Pairwise (·.length ≥ ·.length) := by
  induction name with
  | nil => exact .nil
  | cons c r ih =>
    rw [afterDots]
    split
    · apply List.pairwise_cons.2 ⟨?_, ih⟩
      intro cs hcs
      exact (length_of_afterDots hcs).le
    · exact ih

theorem candidates_descending (name : List Char) :
    (candidates name).Pairwise (·.length ≥ ·.length) := by
  apply List.pairwise_append.2 ⟨List.pairwise_cons.2 ⟨?_, afterDots_descending name⟩, by simp, ?_⟩
  · intro cs hcs
    exact (length_of_afterDots hcs).le
  · intro cs _ root hroot
    rw [List.mem_singleton.1 hroot]
    exact Nat.zero_le _

theorem exists_longest {β : Type} {f : List Char → Option β} {name : List Char} {b : β}
    (h : (candidates name).findSome? f = some b) :
    ∃ cs ∈ candidates name, f cs = some b ∧
      ∀ ds ∈ candidates name, f ds ≠ none → ds.length ≤ cs.length := by
  obtain ⟨front, cs, back, hsplit, hfound, hnone⟩ := List.findSome?_eq_some_iff.1 h
  have hsorted := candidates_descending name
  rw [hsplit] at hsorted ⊢
  obtain ⟨-, htail, -⟩ := List.pairwise_append.1 hsorted
  refine ⟨cs, by simp, hfound, ?_⟩
  intro ds hds hsome
  obtain hfront | hback := List.mem_append.1 hds
  · exact absurd (hnone ds hfront) hsome
  · obtain rfl | hback := List.mem_cons.1 hback
    · exact le_refl _
    · exact (List.pairwise_cons.1 htail).1 ds hback

def withoutDot (s : String) : String :=
  .ofList (if s.toList.getLast? = some '.' then s.toList.dropLast else s.toList)

theorem withoutDot_dot (s : String) : withoutDot (s ++ ".") = s := by
  simp [withoutDot]

theorem withoutDot_of_not_dot {s : String} (h : s.toList.getLast? ≠ some '.') :
    withoutDot s = s := by
  rw [withoutDot, if_neg h, String.ofList_toList]

theorem lower_dot (s : String) : lower (s ++ ".") = lower s ++ "." := by
  apply String.toList_inj.1
  simp [lower, lowerFrom_concat_dot]

theorem canonical_eq (s : String) : canonical s = withoutDot (lower s) := by
  by_cases h : s.toList.getLast? = some '.'
  · obtain ⟨stem, rfl⟩ := exists_stem h
    rw [canonical_dot, lower_dot, withoutDot_dot]
  · rw [canonical_of_not_dot h, withoutDot_of_not_dot (getLast?_lower h)]

theorem lookup_of_canonical (d : Domains) {s t : String} (h : canonical s = canonical t) :
    d.lookup s = d.lookup t := by
  unfold lookup
  rw [h]

theorem lookup_of_lower (d : Domains) {s t : String} (h : lower s = lower t) :
    d.lookup s = d.lookup t := by
  apply lookup_of_canonical
  rw [canonical_eq, canonical_eq, h]

structure Settles (d : Domains) (name : String) (a : Answer) : Prop where
  query : a.query = name
  isMatch_iff : a.isMatch = true ↔ ∃ key ∈ d.names, Covers key name
  covers : a.isMatch = true → Covers a.entry name
  urls : a.isMatch = true → d.file.entries.find? a.entry = some a.urls
  longest : a.isMatch = true → ∀ key ∈ d.names, Covers key name → key.length ≤ a.entry.length
  empty : a.isMatch = false → a = .noMatch name

theorem Settles.noMatch {d : Domains} {name : String} (h : ∀ key ∈ d.names, ¬ Covers key name) :
    d.Settles name (.noMatch name) := by
  have hmatch : (Answer.noMatch name).isMatch ≠ true := Bool.false_ne_true
  constructor
  · rfl
  · constructor
    · intro hm
      exact absurd hm hmatch
    · rintro ⟨key, hkey, hcovers⟩
      exact absurd hcovers (h key hkey)
  · exact fun hm => absurd hm hmatch
  · exact fun hm => absurd hm hmatch
  · exact fun hm => absurd hm hmatch
  · exact fun _ => rfl

theorem mem_names_iff {d : Domains} {key : String} :
    key ∈ d.names ↔ ∃ urls, d.file.entries.find? key = some urls :=
  Entries.mem_keys_iff

theorem Settles.found {d : Domains} {name key : String} {urls : List Url}
    (hfind : d.file.entries.find? key = some urls) (hne : urls ≠ []) (hcovers : Covers key name)
    (hlongest : ∀ k ∈ d.names, Covers k name → k.length ≤ key.length) :
    d.Settles name ⟨name, key, urls⟩ := by
  have hmatch : (Answer.mk name key urls).isMatch = true := by simp [Answer.isMatch, hne]
  constructor
  · rfl
  · exact ⟨fun _ => ⟨key, mem_names_iff.2 ⟨urls, hfind⟩, hcovers⟩, fun _ => hmatch⟩
  · exact fun _ => hcovers
  · exact fun _ => hfind
  · exact fun _ => hlongest
  · intro hm
    cases hmatch.symm.trans hm

theorem settles_lookup {d : Domains} (hurls : ∀ i ∈ d.file.entries.items, i.2 ≠ [])
    (query : String) : d.Settles (canonical query) (d.lookup query) := by
  have hfound : ∀ key ∈ d.names, (d.file.entries.find? (.ofList key.toList)).map
      (Answer.mk (canonical query) (.ofList key.toList)) ≠ none := by
    intro key hkey
    obtain ⟨urls, hfind⟩ := mem_names_iff.1 hkey
    rw [String.ofList_toList, hfind]
    exact Option.some_ne_none _
  unfold lookup
  dsimp only
  cases h : (candidates (canonical query).toList).findSome? fun cs =>
      (d.file.entries.find? (.ofList cs)).map (Answer.mk (canonical query) (.ofList cs)) with
  | none =>
    apply Settles.noMatch
    intro key hkey hcovers
    exact hfound key hkey (List.findSome?_eq_none_iff.1 h _ (mem_candidates.2 hcovers))
  | some a =>
    obtain ⟨cs, hcs, ha, hlongest⟩ := exists_longest h
    obtain ⟨urls, hfind, rfl⟩ := Option.map_eq_some_iff.1 ha
    apply Settles.found hfind (hurls _ (Entries.mem_of_find? hfind))
    · apply mem_candidates.1
      rwa [String.toList_ofList]
    · intro key hkey hcovers
      have hle := hlongest key.toList (mem_candidates.2 hcovers) (hfound key hkey)
      rwa [String.length_toList, ← String.length_ofList] at hle

theorem lookup_longest_suffix {bytes : List UInt8} {d : Domains} (h : Domains.read bytes = .ok d) :
    (∀ stem, canonical (stem ++ ".") = lower stem) ∧
    (∀ stem : String, stem.toList.getLast? ≠ some '.' → canonical stem = lower stem) ∧
    (∀ query, ∃ a, (Registry.domains d).lookup query = .ok a ∧ d.Settles (canonical query) a) ∧
    (∀ query : String, query.toList.getLast? ≠ some '.' →
      (Registry.domains d).lookup (query ++ ".") = (Registry.domains d).lookup query) ∧
    (∀ query, (Registry.domains d).lookup (lower query) = (Registry.domains d).lookup query) ∧
    ∀ s t, SameLetters s t → ¬ HasFinalSigma s → ¬ HasFinalSigma t →
      (Registry.domains d).lookup s = (Registry.domains d).lookup t := by
  obtain ⟨f, hf, rfl⟩ := exists_of_map h
  refine ⟨canonical_dot, ?_, ?_, ?_, ?_, ?_⟩
  · intro stem hstem
    exact canonical_of_not_dot hstem
  · intro query
    exact ⟨_, rfl, settles_lookup (File.urls_ne_nil hf) query⟩
  · intro query hquery
    apply congrArg Except.ok
    apply lookup_of_canonical
    rw [canonical_dot, canonical_of_not_dot hquery]
  · intro query
    exact congrArg Except.ok (lookup_of_lower _ (lower_lower query))
  · intro s t hletters hs ht
    exact congrArg Except.ok (lookup_of_lower _ (lower_eq_of_sameLetters hletters hs ht))

theorem lookup_longest_suffix_cz : ∃ d a, Domains.read czServers = .ok d ∧
    (Registry.domains d).lookup "WWW.Example.CZ." = .ok a ∧ a.entry = "cz" ∧
    (Registry.domains d).lookup "WWW.Example.CZ" = .ok a ∧
    (Registry.domains d).lookup "www.example.cz" = .ok a := by
  have hnames : (Domains.read czServers).map names = .ok ["cz"] := by decide +kernel
  have hname : canonical "WWW.Example.CZ." = "www.example.cz" := by decide +kernel
  have hletters : SameLetters "WWW.Example.CZ" "www.example.cz" := by decide +kernel
  obtain ⟨d, hd, hnames⟩ := exists_of_map hnames
  obtain ⟨-, -, hsettled, hdot, -, hcase⟩ := lookup_longest_suffix hd
  obtain ⟨a, ha, hsettles⟩ := hsettled "WWW.Example.CZ."
  have hcovers : Covers "cz" "www.example.cz" := .inr (.inl ⟨"www.example".toList, by decide⟩)
  have hmatch : a.isMatch = true := by
    apply hsettles.isMatch_iff.2
    rw [hnames, hname]
    exact ⟨"cz", List.mem_singleton_self _, hcovers⟩
  have hentry : a.entry ∈ d.names := mem_names_iff.2 ⟨_, hsettles.urls hmatch⟩
  rw [hnames, List.mem_singleton] at hentry
  have hshort : (Registry.domains d).lookup "WWW.Example.CZ" = .ok a :=
    (hdot "WWW.Example.CZ" (by decide)).symm.trans ha
  have hsmall := hcase _ _ hletters (not_hasFinalSigma (by decide)) (not_hasFinalSigma (by decide))
  exact ⟨d, a, hd, ha, hentry, hshort, hsmall.symm.trans hshort⟩

def sigmaServers : List UInt8 :=
  octetsOf "\x7b\"services\":[[[\"ασ\"],[\"https://rdap.example/\"]]]\x7d".toList

theorem final_sigma_counts : ∃ d a b, Domains.read sigmaServers = .ok d ∧
    SameLetters "ασ" "ΑΣ" ∧ (Registry.domains d).lookup "ασ" = .ok a ∧ a.isMatch = true ∧
    (Registry.domains d).lookup "ΑΣ" = .ok b ∧ b.isMatch = false := by
  have hletters : SameLetters "ασ" "ΑΣ" := by decide +kernel
  have hmatches : (Domains.read sigmaServers).map
      (fun d => ((d.lookup "ασ").isMatch, (d.lookup "ΑΣ").isMatch)) = .ok (true, false) := by
    decide +kernel
  obtain ⟨d, hd, hmatches⟩ := exists_of_map hmatches
  obtain ⟨ha, hb⟩ := Prod.mk.inj hmatches
  exact ⟨d, _, _, hd, hletters, rfl, ha, rfl, hb⟩

end Domains

end RdapDirectory.Registry
