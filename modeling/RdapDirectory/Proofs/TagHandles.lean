import RdapDirectory.Proofs.Escapes
import RdapDirectory.Proofs.Offers

namespace RdapDirectory.Registry

open Text

namespace Tags

def IsSeparator (c : Char) : Prop := c = '~' ∨ c = '-'

instance (c : Char) : Decidable (IsSeparator c) := inferInstanceAs (Decidable (_ ∨ _))

structure IsTag (tag : String) : Prop where
  ne_empty : tag ≠ ""
  free : ∀ c ∈ tag.toList, ¬ IsSeparator c

def Names (handle tag : String) : Prop :=
  IsTag tag ∧ ∃ (front : String) (sep : Char), IsSeparator sep ∧
    handle = front ++ .singleton sep ++ tag

theorem isSeparator_iff {c : Char} : (c == '~' || c == '-') = true ↔ IsSeparator c := by
  simp [IsSeparator]

theorem toList_parts (front : String) (sep : Char) (tag : String) :
    (front ++ .singleton sep ++ tag).toList = front.toList ++ sep :: tag.toList := by
  simp

theorem tag?_of_names {handle tag : String} (h : Names handle tag) : tag? handle = some tag := by
  obtain ⟨htag, front, sep, hsep, rfl⟩ := h
  have hfree : ∀ x ∈ tag.toList, (x == '~' || x == '-') = false := by
    intro x hx
    exact Bool.eq_false_iff.2 fun hx' => htag.free x hx (isSeparator_iff.1 hx')
  have hne : tag.toList ≠ [] := fun he => htag.ne_empty (String.toList_eq_nil_iff.1 he)
  unfold tag?
  rw [toList_parts, cutLast?_append_cons (isSeparator_iff.2 hsep) hfree]
  simp [hne]

theorem names_of_tag? {handle tag : String} (h : tag? handle = some tag) : Names handle tag := by
  unfold tag? at h
  split at h
  · rename_i as bs hcut
    obtain ⟨sep, hsep, hfree, hhandle⟩ := exists_of_cutLast? hcut
    split at h
    · cases h
    · rename_i hne
      obtain rfl := Option.some.inj h
      refine ⟨⟨?_, ?_⟩, .ofList as, sep, isSeparator_iff.1 hsep, ?_⟩
      · intro he
        have hnil : bs = [] := by simpa using congrArg String.toList he
        exact hne (by simp [hnil])
      · intro c hc hsep'
        rw [String.toList_ofList] at hc
        cases (hfree c hc).symm.trans (isSeparator_iff.2 hsep')
      · apply String.toList_inj.1
        rw [hhandle, toList_parts, String.toList_ofList, String.toList_ofList]
  · cases h

theorem names_unique {handle tag tag' : String} (h : Names handle tag) (h' : Names handle tag') :
    tag = tag' :=
  Option.some.inj ((tag?_of_names h).symm.trans (tag?_of_names h'))

structure Settles (f : File) (handle : String) (a : Answer) : Prop where
  query : a.query = handle
  isMatch_iff : a.isMatch = true ↔ ∃ tag ∈ f.entries.keys, Names handle tag
  servers : ∀ tag urls, Names handle tag → f.entries.find? tag = some urls →
    a.entry = tag ∧ a.urls = urls
  empty : a.isMatch = false → a = .noMatch handle

theorem Settles.noMatch {f : File} {handle : String}
    (h : ∀ tag, Names handle tag → f.entries.find? tag = none) :
    Settles f handle (.noMatch handle) := by
  constructor
  · rfl
  · constructor
    · intro hmatch
      cases hmatch
    · rintro ⟨tag, hkey, hnames⟩
      obtain ⟨urls, hfind⟩ := Entries.mem_keys_iff.1 hkey
      cases (h tag hnames).symm.trans hfind
  · intro tag urls hnames hfind
    cases (h tag hnames).symm.trans hfind
  · exact fun _ => rfl

theorem Settles.found {f : File} {handle tag : String} {urls : List Url} (hnames : Names handle tag)
    (hfind : f.entries.find? tag = some urls) : Settles f handle ⟨handle, tag, urls⟩ := by
  have hmatch : (Answer.mk handle tag urls).isMatch = true := by
    simp [Answer.isMatch, hnames.1.ne_empty]
  constructor
  · rfl
  · exact ⟨fun _ => ⟨tag, Entries.mem_keys_iff.2 ⟨urls, hfind⟩, hnames⟩, fun _ => hmatch⟩
  · intro tag' urls' hnames' hfind'
    obtain rfl := names_unique hnames hnames'
    exact ⟨rfl, Option.some.inj (hfind.symm.trans hfind')⟩
  · intro hm
    cases hmatch.symm.trans hm

theorem settles_lookup (t : Tags) (handle : String) : Settles t.file handle (t.lookup handle) := by
  unfold lookup
  split
  · rename_i hnone
    apply Settles.noMatch
    intro tag hnames
    cases hnone.symm.trans (tag?_of_names hnames)
  · rename_i tag htag
    split
    · rename_i urls hfind
      exact .found (names_of_tag? htag) hfind
    · rename_i hfind
      apply Settles.noMatch
      intro tag' hnames
      obtain rfl := names_unique (names_of_tag? htag) hnames
      exact hfind

theorem Settles.names {f : File} {handle : String} {a : Answer} (h : Settles f handle a)
    (hmatch : a.isMatch = true) : Names handle a.entry := by
  obtain ⟨tag, hkey, hnames⟩ := h.isMatch_iff.1 hmatch
  obtain ⟨urls, hfind⟩ := Entries.mem_keys_iff.1 hkey
  rw [(h.servers tag urls hnames hfind).1]
  exact hnames

theorem lookup_alike (t : Tags) {handle handle' tag : String} (h : Names handle tag)
    (h' : Names handle' tag) :
    (t.lookup handle).entry = (t.lookup handle').entry ∧
      (t.lookup handle).urls = (t.lookup handle').urls := by
  simp only [lookup, tag?_of_names h, tag?_of_names h']
  cases t.file.entries.find? tag with
  | none => exact ⟨rfl, rfl⟩
  | some urls => exact ⟨rfl, rfl⟩

theorem drop_octets {sep : Char} (h : IsSeparator sep) (front tag : String) :
    (octetsOf (front ++ .singleton sep ++ tag).toList).drop
      ((octetsOf front.toList).length + 1) = octetsOf tag.toList := by
  have hbasic : sep.toNat < 0x80 := by
    obtain rfl | rfl := h <;> decide
  have hone : octetsOf [sep] = [.ofNat sep.toNat] := octetsOf_of_basic (by simpa using hbasic)
  have hsplit : octetsOf (front ++ .singleton sep ++ tag).toList =
      (octetsOf front.toList ++ [.ofNat sep.toNat]) ++ octetsOf tag.toList := by
    rw [String.toList_append, String.toList_append, octetsOf_append, octetsOf_append,
      String.toList_singleton, hone]
  rw [hsplit]
  exact List.drop_left' (by simp)

/-- Every handle has an answer, which is a match just when the handle ends, behind a separator, in a
tag that the file has. What stands in front is not looked at, and keys that are no tags are never
found. The octets behind a separator are whole characters. -/
theorem lookup_tag {bytes : List UInt8} {reg : Registry}
    (h : Registry.read .serviceProvider bytes = .ok reg) :
    (∀ handle, ∃ a, reg.lookup handle = .ok a ∧ Settles reg.file handle a) ∧
    (∀ handle handle' tag a a', Names handle tag → Names handle' tag →
      reg.lookup handle = .ok a → reg.lookup handle' = .ok a' →
      a.entry = a'.entry ∧ a.urls = a'.urls) ∧
    (∀ key, (key = "" ∨ ∃ c ∈ key.toList, IsSeparator c) → ∀ handle a,
      reg.lookup handle = .ok a → a.isMatch = true → a.entry ≠ key) ∧
    ∀ (front : String) (sep : Char) (tag : String), IsSeparator sep →
      (octetsOf (front ++ .singleton sep ++ tag).toList).drop
        ((octetsOf front.toList).length + 1) = octetsOf tag.toList := by
  obtain ⟨f, -, rfl⟩ := exists_file h
  refine ⟨?_, ?_, ?_, ?_⟩
  · intro handle
    exact ⟨_, rfl, settles_lookup ⟨f⟩ handle⟩
  · rintro handle handle' tag a a' hnames hnames' ⟨⟩ ⟨⟩
    exact lookup_alike ⟨f⟩ hnames hnames'
  · rintro key hkey handle a ⟨⟩ hmatch rfl
    obtain ⟨htag, -⟩ := (settles_lookup ⟨f⟩ handle).names hmatch
    obtain hempty | ⟨c, hc, hsep⟩ := hkey
    · exact htag.ne_empty hempty
    · exact htag.free c hc hsep
  · intro front sep tag hsep
    exact drop_octets hsep front tag

def mixedTags : List UInt8 :=
  octetsOf "\x7b\"services\":[[[\"VRSN\",\"\",\"A-VRSN\"],[\"https://rdap.example/\"]]]\x7d".toList

theorem lookup_tag_mixed : ∃ reg a b c, Registry.read .serviceProvider mixedTags = .ok reg ∧
    reg.file.entries.keys = ["", "A-VRSN", "VRSN"] ∧ reg.lookup "é~ü-VRSN" = .ok a ∧
    a.entry = "VRSN" ∧ reg.lookup "~VRSN" = .ok b ∧ b.entry = "VRSN" ∧ b.urls = a.urls ∧
    reg.lookup "12345~A-VRSN" = .ok c ∧ c.entry ≠ "A-VRSN" := by
  have hkeys : (Registry.read .serviceProvider mixedTags).map (fun r => r.file.entries.keys) =
      .ok ["", "A-VRSN", "VRSN"] := by
    decide +kernel
  obtain ⟨reg, hreg, hkeys⟩ := exists_of_map hkeys
  have hvrsn : IsTag "VRSN" := ⟨by decide, by simp [IsSeparator]⟩
  have hletters : Names "é~ü-VRSN" "VRSN" := ⟨hvrsn, "é~ü", '-', .inr rfl, rfl⟩
  have hbare : Names "~VRSN" "VRSN" := ⟨hvrsn, "", '~', .inl rfl, rfl⟩
  obtain ⟨hanswers, halike, hentries, -⟩ := lookup_tag hreg
  obtain ⟨a, ha, hsettles⟩ := hanswers "é~ü-VRSN"
  obtain ⟨b, hb, -⟩ := hanswers "~VRSN"
  obtain ⟨c, hc, hsettles'⟩ := hanswers "12345~A-VRSN"
  have hkey : "VRSN" ∈ reg.file.entries.keys := by simp [hkeys]
  obtain ⟨urls, hfind⟩ := Entries.mem_keys_iff.1 hkey
  obtain ⟨hentry, hurls⟩ := hsettles.servers "VRSN" urls hletters hfind
  obtain ⟨hentry', hurls'⟩ := halike _ _ _ b a hbare hletters hb ha
  have hmatch : c.isMatch = true :=
    hsettles'.isMatch_iff.2 ⟨"VRSN", hkey, hvrsn, "12345~A", '-', .inr rfl, rfl⟩
  have hpart : ∃ x ∈ "A-VRSN".toList, IsSeparator x := ⟨'-', by decide, .inr rfl⟩
  exact ⟨reg, a, b, c, hreg, hkeys, ha, hentry, hb, hentry'.trans hentry, hurls', hc,
    hentries "A-VRSN" (.inr hpart) _ c hc hmatch⟩

end Tags

end RdapDirectory.Registry
