import RdapDirectory.Proofs.Answers

namespace RdapDirectory

namespace Json

theorem mem_of_mem_skip {bs : Octets} {b : UInt8} {r : Octets} (h : skip bs = b :: r) :
    b ∈ bs ∧ isSpace b = false := by
  have hsplit := List.takeWhile_append_dropWhile (p := isSpace) (l := bs)
  have hhead : (bs.dropWhile isSpace).head? = some b := by
    rw [← skip, h]
    rfl
  constructor
  · rw [← hsplit]
    exact List.mem_append_right _ (List.mem_of_mem_head? hhead)
  · have hnot := List.head?_dropWhile_not isSpace bs
    rw [hhead] at hnot
    simpa using hnot

theorem value?_of_filler {bs : Octets} (h : ∀ b ∈ bs, Registry.isFiller b = true) (fuel : Nat) :
    value? fuel bs = none := by
  cases fuel with
  | zero => rfl
  | succ fuel =>
    cases hs : skip bs with
    | nil => simp only [value?, hs]
    | cons b r =>
      obtain ⟨hmem, hspace⟩ := mem_of_mem_skip hs
      have hfiller := h b hmem
      simp only [isSpace, Registry.isFiller, Bool.or_eq_true, Bool.or_eq_false_iff, beq_iff_eq,
        beq_eq_false_iff_ne] at hspace hfiller
      have hfeed : b = 0x0C := by
        obtain (((he | he) | he) | he) | he := hfiller
        · exact absurd he hspace.1.1.1
        · exact absurd he hspace.1.2
        · exact he
        · exact absurd he hspace.2
        · exact absurd he hspace.1.1.2
      subst hfeed
      simp only [value?, hs]
      rfl

end Json

namespace Registry

open Text

namespace Entries

theorem find?_put (key : String) (urls : List Url) (items : List Item) (k : String) :
    (put key urls items).find? (·.1 = k) =
      if key = k then some (key, urls) else items.find? (·.1 = k) := by
  have hcons : ∀ (i : Item) (r : List Item),
      (i :: r).find? (·.1 = k) = if i.1 = k then some i else r.find? (·.1 = k) := by
    intro i r
    by_cases hi : i.1 = k <;> simp [hi]
  induction items with
  | nil => exact hcons _ _
  | cons i r ih =>
    unfold put
    split
    · exact hcons _ _
    · split
      · rename_i he
        rw [hcons, hcons, ← he]
        split <;> rfl
      · rename_i hne
        rw [hcons, hcons, ih]
        by_cases hi : i.1 = k
        · have hk : key ≠ k := fun he => hne (he.trans hi.symm)
          rw [if_pos hi, if_neg hk, if_pos hi]
        · rw [if_neg hi, if_neg hi]

theorem find?_insert (e : Entries) (key : String) (urls : List Url) (k : String) :
    (e.insert key urls).find? k = if key = k then some urls else e.find? k := by
  unfold find? insert
  rw [find?_put]
  split <;> rfl

theorem mem_items_iff {e : Entries} {i : Item} : i ∈ e.items ↔ e.find? i.1 = some i.2 :=
  ⟨find?_of_mem, mem_of_find?⟩

theorem nodup (e : Entries) : e.items.Nodup := by
  apply e.sorted.imp
  rintro i j hlt rfl
  exact String.lt_irrefl _ hlt

theorem ext_find? {e e' : Entries} (h : ∀ key, e.find? key = e'.find? key) : e = e' := by
  have hitems : e.items = e'.items := by
    have hperm : e.items.Perm e'.items := by
      apply (List.perm_ext_iff_of_nodup ?_ ?_).2
      · intro i
        rw [mem_items_iff, mem_items_iff, h]
      · exact e.nodup
      · exact e'.nodup
    apply hperm.eq_of_pairwise ?_ e.sorted e'.sorted
    intro i j _ _ hij hji
    exact absurd (String.lt_trans hij hji) (String.lt_irrefl _)
  obtain ⟨items, sorted⟩ := e
  obtain ⟨items', sorted'⟩ := e'
  cases hitems
  rfl

theorem mem_keys_iff {e : Entries} {key : String} :
    key ∈ e.keys ↔ ∃ urls, e.find? key = some urls := by
  constructor
  · intro h
    obtain ⟨i, hi, rfl⟩ := List.mem_map.1 h
    exact ⟨i.2, find?_of_mem hi⟩
  · rintro ⟨urls, h⟩
    exact List.mem_map_of_mem (mem_of_find? h)

end Entries

namespace File

theorem find?_serve (e : Entries) (keys : List String) (urls : List Url) (key : String) :
    (serve e keys urls).find? key =
      if key ∈ keys ∧ urls ≠ [] then some urls else e.find? key := by
  unfold serve
  by_cases hurls : urls = []
  · simp [hurls]
  · have hfull : urls.isEmpty = false := by simpa using hurls
    simp only [hfull, Bool.false_eq_true, if_false, ne_eq, hurls, not_false_eq_true, and_true]
    induction keys generalizing e with
    | nil => rfl
    | cons k keys ih =>
      simp only [List.foldl_cons, ih, Entries.find?_insert, List.mem_cons]
      by_cases hk : key = k
      · subst hk
        simp
      · simp [hk, Ne.symm hk]

def offer? (key : String) : Service → Option (List Url)
  | [keys, texts] => if key ∈ keys ∧ urlsOf texts ≠ [] then some (urlsOf texts) else none
  | _ => none

def lastOffer? (key : String) : List Service → Option (List Url)
  | [] => none
  | s :: rest => (lastOffer? key rest).or (offer? key s)

theorem find?_collect {index : Nat} {e f : Entries} {services : List Service}
    (h : collect index e services = .ok f) (key : String) :
    f.find? key = (lastOffer? key services).or (e.find? key) := by
  fun_induction collect index e services with
  | case1 =>
    cases h
    rfl
  | case2 index e keys texts rest ih =>
    rw [ih h, find?_serve, lastOffer?, Option.or_assoc, offer?]
    congr 1
    split <;> rfl
  | case3 => cases h

theorem exists_collect {index : Nat} {e : Entries} {services : List Service} :
    (∃ f, collect index e services = .ok f) ↔ ∀ s ∈ services, s.length = 2 := by
  fun_induction collect index e services with
  | case1 => simp
  | case2 index e keys texts rest ih => simp [ih]
  | case3 index e s rest hs =>
    have hlength : s.length ≠ 2 := by
      intro he
      obtain ⟨keys, texts, rfl⟩ := List.length_eq_two.1 he
      exact hs keys texts rfl
    simp [hlength]

def Offers (s : Service) (key : String) (urls : List Url) : Prop :=
  ∃ keys texts, s = [keys, texts] ∧ key ∈ keys ∧ urls = urlsOf texts ∧ urls ≠ []

theorem offer?_eq_some {key : String} {s : Service} {urls : List Url} :
    offer? key s = some urls ↔ Offers s key urls := by
  constructor
  · intro h
    unfold offer? at h
    split at h
    · split at h
      · rename_i keys texts hkey
        cases h
        exact ⟨keys, texts, rfl, hkey.1, rfl, hkey.2⟩
      · cases h
    · cases h
  · rintro ⟨keys, texts, rfl, hkey, rfl, hne⟩
    exact if_pos ⟨hkey, hne⟩

theorem offer?_eq_none {key : String} {s : Service} :
    offer? key s = none ↔ ∀ urls, ¬ Offers s key urls := by
  rw [Option.eq_none_iff_forall_ne_some]
  exact forall_congr' fun urls => not_congr offer?_eq_some

theorem lastOffer?_eq_none {key : String} {services : List Service} :
    lastOffer? key services = none ↔ ∀ s ∈ services, offer? key s = none := by
  induction services with
  | nil => simp [lastOffer?]
  | cons s rest ih => simp [lastOffer?, Option.or_eq_none_iff, ih, and_comm]

theorem lastOffer?_append (key : String) (front back : List Service) :
    lastOffer? key (front ++ back) = (lastOffer? key back).or (lastOffer? key front) := by
  induction front with
  | nil => simp [lastOffer?]
  | cons s front ih => rw [List.cons_append, lastOffer?, ih, lastOffer?, Option.or_assoc]

theorem lastOffer?_eq_some {key : String} {services : List Service} {urls : List Url} :
    lastOffer? key services = some urls ↔ ∃ front s back, services = front ++ s :: back ∧
      Offers s key urls ∧ ∀ t ∈ back, ∀ us, ¬ Offers t key us := by
  constructor
  · intro h
    induction services with
    | nil => cases h
    | cons s rest ih =>
      rw [lastOffer?] at h
      cases hrest : lastOffer? key rest with
      | some us =>
        rw [hrest, Option.some_or] at h
        obtain ⟨front, t, back, rfl, ht, hback⟩ := ih (hrest.trans h)
        exact ⟨s :: front, t, back, rfl, ht, hback⟩
      | none =>
        rw [hrest, Option.none_or] at h
        refine ⟨[], s, rest, rfl, offer?_eq_some.1 h, ?_⟩
        intro t ht
        exact offer?_eq_none.1 (lastOffer?_eq_none.1 hrest t ht)
  · rintro ⟨front, s, back, rfl, hs, hback⟩
    have hnone : lastOffer? key back = none := by
      apply lastOffer?_eq_none.2
      intro t ht
      exact offer?_eq_none.2 (hback t ht)
    rw [lastOffer?_append, lastOffer?, hnone, Option.none_or, offer?_eq_some.2 hs, Option.some_or]

theorem lastOffer?_ne_none {key : String} {services : List Service} :
    (∃ urls, lastOffer? key services = some urls) ↔ ∃ s ∈ services, ∃ urls, Offers s key urls := by
  rw [← Option.ne_none_iff_exists', ne_eq, lastOffer?_eq_none]
  simp only [offer?_eq_none]
  push Not
  rfl

def keysOf (s : Service) : List String := s.headD []

theorem offer?_of_not_mem {key : String} {s : Service} (h : key ∉ keysOf s) :
    offer? key s = none := by
  apply offer?_eq_none.2
  rintro urls ⟨keys, texts, rfl, hkey, -, -⟩
  exact h hkey

/-- The keys of a service in another order, or two neighbours that have no key in common the other
way round, and so on. -/
inductive Rearranged : List Service → List Service → Prop
  | nil : Rearranged [] []
  | cons (s : Service) {rest rest' : List Service} (h : Rearranged rest rest') :
    Rearranged (s :: rest) (s :: rest')
  | keys {keys keys' : List String} (h : keys.Perm keys') (texts : List String)
    (rest : List Service) : Rearranged ([keys, texts] :: rest) ([keys', texts] :: rest)
  | swap {s t : Service} (h : (keysOf s).Disjoint (keysOf t)) (rest : List Service) :
    Rearranged (s :: t :: rest) (t :: s :: rest)
  | trans {services services' services'' : List Service} (h : Rearranged services services')
    (h' : Rearranged services' services'') : Rearranged services services''

theorem rearranged_of_perm {services services' : List Service} (h : services.Perm services')
    (hp : services.Pairwise fun s t => (keysOf s).Disjoint (keysOf t)) :
    Rearranged services services' := by
  induction h with
  | nil => exact .nil
  | cons s _ ih => exact .cons s (ih (List.pairwise_cons.1 hp).2)
  | swap s t rest => exact .swap ((List.pairwise_cons.1 hp).1 s (by simp)) rest
  | trans h _ ih ih' =>
    have hp' := (h.pairwise_iff fun hst => hst.symm).1 hp
    exact .trans (ih hp) (ih' hp')

theorem lastOffer?_rearranged {services services' : List Service}
    (h : Rearranged services services') (key : String) :
    lastOffer? key services = lastOffer? key services' := by
  induction h with
  | nil => rfl
  | cons s _ ih => rw [lastOffer?, ih, lastOffer?]
  | keys h texts rest => simp only [lastOffer?, offer?, h.mem_iff]
  | @swap s t h rest =>
    simp only [lastOffer?, Option.or_assoc]
    congr 1
    -- At most one of the two has the key.
    by_cases hkey : key ∈ keysOf s
    · have hother : key ∉ keysOf t := fun hother => h hkey hother
      rw [offer?_of_not_mem hother, Option.none_or, Option.or_none]
    · rw [offer?_of_not_mem hkey, Option.none_or, Option.or_none]
  | trans _ _ ih ih' => exact ih.trans ih'

theorem forall_length_rearranged {services services' : List Service}
    (h : Rearranged services services') :
    (∀ s ∈ services, s.length = 2) ↔ ∀ s ∈ services', s.length = 2 := by
  induction h with
  | nil => rfl
  | cons s _ ih => rw [List.forall_mem_cons, List.forall_mem_cons, ih]
  | keys => simp
  | swap =>
    simp only [List.forall_mem_cons]
    exact and_left_comm
  | trans _ _ ih ih' => exact ih.trans ih'

section Decoded

variable {bytes : List UInt8} {d : Document}

theorem exists_read (hd : Document.read? bytes = some d) :
    (∃ f, File.read bytes = .ok f) ↔
      ∃ services, d.services = some services ∧ ∀ s ∈ services, s.length = 2 := by
  simp only [File.read, hd, ofDocument]
  cases hs : d.services with
  | none => simp
  | some services =>
    have hcollect : (∃ e, collect 0 .empty services = .ok e) ↔ ∀ s ∈ services, s.length = 2 :=
      exists_collect
    simp only [Option.some.injEq, exists_eq_left']
    rw [← hcollect]
    constructor
    · rintro ⟨f, h⟩
      obtain ⟨e, he, -⟩ := exists_of_map h
      exact ⟨e, he⟩
    · rintro ⟨e, he⟩
      rw [he]
      exact ⟨_, rfl⟩

theorem find?_read {f : File} {services : List Service} (hd : Document.read? bytes = some d)
    (hf : File.read bytes = .ok f) (hs : d.services = some services) (key : String) :
    f.entries.find? key = lastOffer? key services := by
  simp only [File.read, hd, ofDocument, hs] at hf
  obtain ⟨e, he, rfl⟩ := exists_of_map hf
  have hempty : Entries.empty.find? key = none := rfl
  have hfind := find?_collect he key
  rwa [hempty, Option.or_none] at hfind

theorem read_of_file {f : File} (hd : Document.read? bytes = some d)
    (hf : File.read bytes = .ok f) (k : Kind) : Registry.read k bytes = .ok (ofFile k f) := by
  have hfull : bytes.all isFiller = false := by
    apply Bool.eq_false_of_not_eq_true
    intro h
    have hnone := Json.value?_of_filler (List.all_eq_true.1 h) (2 * bytes.length + 2)
    simp only [Document.read?, Json.read?, hnone] at hd
    cases hd
  unfold Registry.read
  rw [hfull]
  cases k <;> simp only [Domains.read, Networks.read, Systems.read, Tags.read, hf] <;> rfl

end Decoded

end File

theorem lookup_congr {f f' : File} (h : f.entries = f'.entries) (k : Kind) (query : String) :
    (ofFile k f).lookup query = (ofFile k f').lookup query := by
  cases k with
  | dns => simp only [ofFile, lookup, Domains.lookup, h]
  | ipv4 | ipv6 => simp only [ofFile, lookup, Networks.lookup, Networks.ofFile, h]
  | asn => simp only [ofFile, lookup, Systems.lookup, Systems.ofFile, h]
  | serviceProvider => simp only [ofFile, lookup, Tags.lookup, h]

open File in
theorem read_keeps_last_offers {bytes : List UInt8} {d : Document}
    (hd : Document.read? bytes = some d) :
    ((∃ f, File.read bytes = .ok f) ↔
      ∃ services, d.services = some services ∧ ∀ s ∈ services, s.length = 2) ∧
    ∀ f services, File.read bytes = .ok f → d.services = some services →
      (∀ key, key ∈ f.entries.keys ↔ ∃ s ∈ services, ∃ urls, Offers s key urls) ∧
      (∀ key urls, f.entries.find? key = some urls ↔
        ∃ front s back, services = front ++ s :: back ∧ Offers s key urls ∧
          ∀ t ∈ back, ∀ us, ¬ Offers t key us) ∧
      (∀ i ∈ f.entries.items, i.2 ≠ []) ∧
      ∀ bytes' d' services', Document.read? bytes' = some d' → d'.services = some services' →
        Rearranged services services' →
        (∃ f', File.read bytes' = .ok f' ∧ f'.entries = f.entries) ∧
        ∀ k, ∃ reg reg', Registry.read k bytes = .ok reg ∧ Registry.read k bytes' = .ok reg' ∧
          ∀ query, reg'.lookup query = reg.lookup query := by
  refine ⟨exists_read hd, ?_⟩
  intro f services hf hs
  have hfind := find?_read hd hf hs
  refine ⟨?_, ?_, File.urls_ne_nil hf, ?_⟩
  · intro key
    rw [Entries.mem_keys_iff, hfind, lastOffer?_ne_none]
  · intro key urls
    rw [hfind, lastOffer?_eq_some]
  · intro bytes' d' services' hd' hs' h
    obtain ⟨_, hsame, hpairs⟩ := (exists_read hd).1 ⟨f, hf⟩
    cases hs.symm.trans hsame
    have hpairs' := (forall_length_rearranged h).1 hpairs
    obtain ⟨f', hf'⟩ := (exists_read hd').2 ⟨services', hs', hpairs'⟩
    have hentries : f'.entries = f.entries := by
      apply Entries.ext_find?
      intro key
      rw [find?_read hd' hf' hs', hfind, lastOffer?_rearranged h]
    refine ⟨⟨f', hf', hentries⟩, ?_⟩
    intro k
    refine ⟨_, _, read_of_file hd hf k, read_of_file hd' hf' k, ?_⟩
    intro query
    exact lookup_congr hentries k query

def threeKeys : List Service :=
  [[["a", "b"], ["://", "http://one/"]], [["c"], ["http://two/"]]]

def threeKeysText : List UInt8 :=
  octetsOf ("\x7b\"services\":[[[\"a\",\"b\"],[\"://\",\"http://one/\"]]," ++
    "[[\"c\"],[\"http://two/\"]]]\x7d").toList

def threeKeysTurned : List Service :=
  [[["c"], ["http://two/"]], [["b", "a"], ["://", "http://one/"]]]

def threeKeysTurnedText : List UInt8 :=
  octetsOf ("\x7b\"services\":[[[\"c\"],[\"http://two/\"]]," ++
    "[[\"b\",\"a\"],[\"://\",\"http://one/\"]]]\x7d").toList

theorem rearranged_threeKeys : File.Rearranged threeKeys threeKeysTurned := by
  have hapart : threeKeys.Pairwise fun s t => (File.keysOf s).Disjoint (File.keysOf t) := by
    simp [threeKeys, File.keysOf]
  have hturned := File.rearranged_of_perm (.swap ..) hapart
  exact .trans hturned (.cons _ (.keys (.swap ..) _ _))

theorem read_keeps_last_offers_turned :
    ∃ f f', File.read threeKeysText = .ok f ∧ File.read threeKeysTurnedText = .ok f' ∧
      "a" ∈ f.entries.keys ∧ f'.entries = f.entries := by
  have hdecoded : (Document.read? threeKeysText).map (·.services) = some (some threeKeys) := by
    decide +kernel
  have hdecoded' : (Document.read? threeKeysTurnedText).map (·.services) =
      some (some threeKeysTurned) := by
    decide +kernel
  have hpairs : ∀ s ∈ threeKeys, s.length = 2 := by decide
  have hurl : (File.urlsOf ["://", "http://one/"]).isEmpty = false := by decide +kernel
  have hoffers : File.Offers [["a", "b"], ["://", "http://one/"]] "a"
      (File.urlsOf ["://", "http://one/"]) :=
    ⟨_, _, rfl, by simp, rfl, by simpa using hurl⟩
  obtain ⟨d, hd, hs⟩ := Option.map_eq_some_iff.1 hdecoded
  obtain ⟨d', hd', hs'⟩ := Option.map_eq_some_iff.1 hdecoded'
  obtain ⟨hread, hfile⟩ := read_keeps_last_offers hd
  obtain ⟨f, hf⟩ := hread.2 ⟨threeKeys, hs, hpairs⟩
  obtain ⟨hkeys, -, -, hturned⟩ := hfile f threeKeys hf hs
  obtain ⟨⟨f', hf', hentries⟩, -⟩ :=
    hturned threeKeysTurnedText d' threeKeysTurned hd' hs' rearranged_threeKeys
  have hmem : "a" ∈ f.entries.keys := (hkeys "a").2 ⟨_, List.mem_cons_self, _, hoffers⟩
  exact ⟨f, f', hf, hf', hmem, hentries⟩

end Registry

end RdapDirectory
