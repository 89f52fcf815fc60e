import RdapDirectory.Proofs.RequestTexts
import RdapDirectory.Request.Basic

namespace RdapDirectory.Request

open Text

def formText? (cs : List Char) : Option String :=
  (ofOctets? (unescape (octetsOf (cs.map blankForPlus)))).map String.ofList

/-- A part without an equals sign is a key with an empty value. -/
def formPair? (part : List Char) : Option (String × String) :=
  let sides := (cut? (· == '=') part).getD (part, [])
  do return (← formText? sides.1, ← formText? sides.2)

def formPairs? (query : List Char) : Option (List (String × String)) :=
  ((pieces (· == '&') query).filter (!·.isEmpty)).mapM formPair?

theorem formText?_formValue (cs : List Char) : formText? (formValue cs) = some (.ofList cs) := by
  rw [formText?, map_blankForPlus_formValue, unescape_escape (by decide), ofOctets?_octetsOf,
    Option.map_some]

theorem formValue_of_alphanum {cs : List Char} (h : ∀ c ∈ cs, c.isAlphanum = true) :
    formValue cs = cs := by
  induction cs with
  | nil => rfl
  | cons c r ih =>
    have hc := h c (by simp)
    have hblank : c ≠ ' ' := by
      rintro rfl
      exact absurd hc (by decide)
    have hsafe : isValueSafe c = true := by simp [isValueSafe, hc]
    rw [formValue_cons, if_neg hblank, if_pos hsafe, ih fun x hx => h x (List.mem_cons_of_mem _ hx),
      List.singleton_append]

theorem exists_sign_of_formValue (cs : List Char) {c : Char} (hc : c ∈ formValue cs) :
    c.isAlphanum = true ∨ c ∈ "*-._+%".toList := by
  have hplain : ∀ x, isValueSafe x = true → x.isAlphanum = true ∨ x ∈ "*-._+%".toList := by
    intro x hx
    simp only [isValueSafe, Bool.or_eq_true, beq_iff_eq] at hx
    obtain (((hx | rfl) | rfl) | rfl) | rfl := hx
    · exact .inl hx
    all_goals exact .inr (by decide)
  have hall : ∀ x ∈ escape isBlankOrSafe cs,
      decide ((plusForBlank x).isAlphanum = true ∨ plusForBlank x ∈ "*-._+%".toList) = true := by
    apply forall_mem_escape
    · intro x _ hx
      by_cases hblank : x = ' '
      · subst hblank
        decide
      · have hsafe : isValueSafe x = true := by simpa [isBlankOrSafe, hblank] using hx
        simpa [plusForBlank, hblank] using hplain x hsafe
    · decide
  rw [formValue_eq] at hc
  obtain ⟨x, hx, rfl⟩ := List.mem_map.1 hc
  exact of_decide_eq_true (hall x hx)

theorem not_mem_formValue {sep : Char} (halpha : sep.isAlphanum = false)
    (hsign : sep ∉ "*-._+%".toList) (cs : List Char) : sep ∉ formValue cs := by
  intro hc
  obtain h | h := exists_sign_of_formValue cs hc
  · rw [halpha] at h
    cases h
  · exact hsign h

theorem formPairs?_pair {key : List Char} (hkey : ∀ c ∈ key, c.isAlphanum = true)
    (value : List Char) :
    formPairs? (key ++ '=' :: formValue value) = some [(.ofList key, .ofList value)] := by
  have hfree : ∀ {sep : Char}, sep.isAlphanum = false → sep ∉ key := by
    intro sep hsep hc
    have halpha := hkey sep hc
    rw [hsep] at halpha
    cases halpha
  have hone : pieces (· == '&') (key ++ '=' :: formValue value) =
      [key ++ '=' :: formValue value] := by
    apply pieces_of_free
    intro c hc
    apply beq_false_of_ne
    rintro rfl
    rw [List.mem_append, List.mem_cons] at hc
    obtain hc | hc | hc := hc
    · exact hfree (by decide) hc
    · exact absurd hc (by decide)
    · exact not_mem_formValue (by decide) (by decide) value hc
  have hcut : cut? (· == '=') (key ++ '=' :: formValue value) = some (key, formValue value) :=
    cut?_eq_some_iff.2 ⟨hfree (by decide), rfl⟩
  have hname : formText? key = some (.ofList key) := by
    have htext := formText?_formValue key
    rwa [formValue_of_alphanum hkey] at htext
  have hpair : formPair? (key ++ '=' :: formValue value) = some (.ofList key, .ofList value) := by
    simp only [formPair?, hcut, Option.getD_some, hname, formText?_formValue]
    rfl
  have hfull : (key ++ '=' :: formValue value).isEmpty = false := by simp
  simp [formPairs?, hone, hfull, hpair]

theorem exists_sign_of_escape {cs : List Char} {c : Char} (hc : c ∈ escape isPathSafe cs) :
    c.isAlphanum = true ∨ c ∈ "-_.~$&+:=@%".toList := by
  have hall : ∀ x ∈ escape isPathSafe cs,
      decide (x.isAlphanum = true ∨ x ∈ "-_.~$&+:=@%".toList) = true := by
    apply forall_mem_escape
    · intro x _ hx
      obtain hx | hx := Bool.or_eq_true_iff.1 hx
      · exact decide_eq_true (.inl hx)
      · have hmem : x ∈ "-_.~$&+:=@".toList := List.contains_iff_mem.1 hx
        exact decide_eq_true (.inr (List.mem_append_left ['%'] hmem))
    · decide
  exact of_decide_eq_true (hall c hc)

theorem not_mem_escape {sep : Char} (halpha : sep.isAlphanum = false)
    (hsign : sep ∉ "-_.~$&+:=@%".toList) (cs : List Char) : sep ∉ escape isPathSafe cs := by
  intro hc
  obtain h | h := exists_sign_of_escape hc
  · rw [halpha] at h
    cases h
  · exact hsign h

namespace Subject

def directKinds : List String := namedKinds ++ ["ip", "autnum", "help"]

def kinds : List String := directKinds ++ Search.all.map Search.name

theorem kind_cases (s : Subject) : s.kind ∈ directKinds ∨ ∃ p, s = search p s.text := by
  cases s with
  | search p pattern => exact .inr ⟨p, rfl⟩
  | domain | address | network | system | entity | nameserver | help =>
    exact .inl (by simp [kind, directKinds, namedKinds])

theorem kind_mem (s : Subject) : s.kind ∈ kinds := by
  obtain h | ⟨p, h⟩ := s.kind_cases
  · exact List.mem_append_left _ h
  · rw [h]
    have hp : p ∈ Search.all := by cases p <;> decide
    exact List.mem_append_right _ (List.mem_map_of_mem hp)

theorem stems_apart : ∀ kind ∈ kinds, ∀ kind' ∈ kinds,
    (stemOf kind).isPrefixOf (stemOf kind') = true → kind = kind' := by
  decide

theorem stem_prefix (s : Subject) : stemOf s.kind <+: s.uri := by
  rw [uri_eq_spelling]
  exact List.prefix_append ..

theorem kind_eq_of_uri {s s' : Subject} (h : s.uri = s'.uri) : s.kind = s'.kind := by
  have hs := stem_prefix s
  have hs' := stem_prefix s'
  rw [h] at hs
  obtain hle | hle := List.prefix_or_prefix_of_prefix hs hs'
  · exact stems_apart _ s.kind_mem _ s'.kind_mem (List.isPrefixOf_iff_prefix.2 hle)
  · exact (stems_apart _ s'.kind_mem _ s.kind_mem (List.isPrefixOf_iff_prefix.2 hle)).symm

theorem uri_eq_iff {s s' : Subject} : s.uri = s'.uri ↔ s.kind = s'.kind ∧ s.text = s'.text := by
  constructor
  · intro h
    have hkind := kind_eq_of_uri h
    exact ⟨hkind, uri_injective hkind h⟩
  · rintro ⟨hkind, htext⟩
    rw [uri_eq_spelling, uri_eq_spelling, hkind, htext]

theorem eq_search {s : Subject} {p : Search} (h : s.kind = p.name) : s = search p s.text := by
  have hapart : ∀ p q : Search, p.name = q.name → p = q := by
    intro p q
    cases p <;> cases q <;> decide
  have hsearch : p.name ∉ directKinds := by cases p <;> decide
  obtain hkind | ⟨q, hq⟩ := s.kind_cases
  · rw [h] at hkind
    exact absurd hkind hsearch
  · have hname : q.name = p.name := by
      rw [← h, hq]
      rfl
    rwa [hapart q p hname] at hq

theorem uri_of_named {s : Subject} (h : s.kind ∈ namedKinds) :
    ∃ part, s.uri = s.kind.toList ++ '/' :: part ∧
      unescape (octetsOf part) = octetsOf s.text.toList ∧
      (∀ c ∈ part, c.isAlphanum = true ∨ c ∈ "-_.~$&+:=@%".toList) ∧
      pieces (· == '/') s.uri = [s.kind.toList, part] ∧ '?' ∉ s.uri ∧ '#' ∉ s.uri := by
  have hnamed : s.named? = some (s.kind, s.text) := by rw [named?_eq, if_pos h]
  obtain ⟨hparts, hquery, -, -, -⟩ := parts_of_named hnamed
  have huri : s.uri = s.kind.toList ++ '/' :: escape isPathSafe s.text.toList := by
    rw [uri_eq, hparts, hquery, intercalate_pair, Url.queryText, List.append_nil]
  have hkind : ∀ kind ∈ namedKinds, '/' ∉ kind.toList ∧ '?' ∉ kind.toList ∧ '#' ∉ kind.toList := by
    decide
  obtain ⟨hslash, hmark, hhash⟩ := hkind s.kind h
  refine ⟨escape isPathSafe s.text.toList, huri, unescape_escape (by decide) _, ?_, ?_, ?_, ?_⟩
  · intro c hc
    exact exists_sign_of_escape hc
  · have hfree : ∀ part ∈ [s.kind.toList, escape isPathSafe s.text.toList],
        ∀ c ∈ part, (c == '/') = false := by
      intro part hpart c hc
      apply beq_false_of_ne
      rintro rfl
      simp only [List.mem_cons, List.not_mem_nil, or_false] at hpart
      obtain rfl | rfl := hpart
      · exact hslash hc
      · exact not_mem_escape (by decide) (by decide) _ hc
    rw [huri, ← intercalate_pair]
    exact pieces_intercalate (by decide) (by simp) hfree
  · rw [huri, List.mem_append, List.mem_cons, not_or, not_or]
    exact ⟨hmark, by decide, not_mem_escape (by decide) (by decide) _⟩
  · rw [huri, List.mem_append, List.mem_cons, not_or, not_or]
    exact ⟨hhash, by decide, not_mem_escape (by decide) (by decide) _⟩

theorem uri_of_search {s : Subject} {p : Search} (h : s.kind = p.name) :
    ∃ value, s.uri = p.path.toList ++ '?' :: (p.key.toList ++ '=' :: value) ∧
      formPairs? (p.key.toList ++ '=' :: value) = some [(p.key, s.text)] ∧
      (∀ c ∈ value, c.isAlphanum = true ∨ c ∈ "*-._+%".toList) ∧
      '/' ∉ s.uri ∧ '#' ∉ s.uri := by
  have hkey : p.key.toList.all Char.isAlphanum = true := by cases p <;> decide
  have hfront : '/' ∉ p.path.toList ++ '?' :: p.key.toList ∧
      '#' ∉ p.path.toList ++ '?' :: p.key.toList := by cases p <;> decide
  have hwhole : s.uri =
      (p.path.toList ++ '?' :: p.key.toList) ++ '=' :: formValue s.text.toList :=
    congrArg uri (eq_search h)
  have huri : s.uri = p.path.toList ++ '?' :: (p.key.toList ++ '=' :: formValue s.text.toList) := by
    rw [hwhole, List.append_assoc, List.cons_append]
  refine ⟨formValue s.text.toList, huri, ?_, ?_, ?_, ?_⟩
  · rw [formPairs?_pair (List.all_eq_true.1 hkey), String.ofList_toList, String.ofList_toList]
  · intro c hc
    exact exists_sign_of_formValue _ hc
  · rw [hwhole, List.mem_append, List.mem_cons, not_or, not_or]
    exact ⟨hfront.1, by decide, not_mem_formValue (by decide) (by decide) _⟩
  · rw [hwhole, List.mem_append, List.mem_cons, not_or, not_or]
    exact ⟨hfront.2, by decide, not_mem_formValue (by decide) (by decide) _⟩

end Subject

theorem exists_subject {r : Request} (h : r.kind ≠ "url") :
    ∃ s : Subject, r.kind = s.kind ∧ r.text = s.text ∧ r.uri = s.uri := by
  cases r with
  | unplaced s => exact ⟨s, rfl, rfl, rfl⟩
  | placed s u => exact ⟨s, rfl, rfl, rfl⟩
  | link u => exact absurd rfl h

theorem uri_read_back :
    (∀ r : Request, r.kind ∈ namedKinds → ∃ part, r.uri = r.kind.toList ++ '/' :: part ∧
      unescape (octetsOf part) = octetsOf r.text.toList ∧
      (∀ c ∈ part, c.isAlphanum = true ∨ c ∈ "-_.~$&+:=@%".toList) ∧
      pieces (· == '/') r.uri = [r.kind.toList, part] ∧ '?' ∉ r.uri ∧ '#' ∉ r.uri) ∧
    (∀ (r : Request) (p : Search), r.kind = p.name →
      ∃ value, r.uri = p.path.toList ++ '?' :: (p.key.toList ++ '=' :: value) ∧
        formPairs? (p.key.toList ++ '=' :: value) = some [(p.key, r.text)] ∧
        (∀ c ∈ value, c.isAlphanum = true ∨ c ∈ "*-._+%".toList) ∧
        '/' ∉ r.uri ∧ '#' ∉ r.uri) ∧
    ∀ r r' : Request, r.kind ≠ "url" → r'.kind ≠ "url" →
      (r.uri = r'.uri ↔ r.kind = r'.kind ∧ r.text = r'.text) := by
  have hnamed : "url" ∉ namedKinds := by decide
  have hsearch : ∀ p : Search, p.name ≠ "url" := by
    intro p
    cases p <;> decide
  refine ⟨?_, ?_, ?_⟩
  · intro r h
    obtain ⟨s, hkind, htext, huri⟩ := exists_subject fun he => hnamed (he ▸ h)
    rw [hkind, htext, huri]
    exact Subject.uri_of_named (hkind ▸ h)
  · intro r p h
    obtain ⟨s, hkind, htext, huri⟩ := exists_subject fun he => hsearch p (h.symm.trans he)
    rw [htext, huri]
    exact Subject.uri_of_search (hkind.symm.trans h)
  · intro r r' h h'
    obtain ⟨s, hkind, htext, huri⟩ := exists_subject h
    obtain ⟨s', hkind', htext', huri'⟩ := exists_subject h'
    rw [hkind, hkind', htext, htext', huri, huri']
    exact Subject.uri_eq_iff

theorem uri_read_back_slash :
    (∃ part, (unplaced (.domain "ä/b")).uri = "domain/".toList ++ part ∧
      unescape (octetsOf part) = octetsOf "ä/b".toList) ∧
    formPairs? "fn=a+%2B*".toList = some [("fn", "a +*")] ∧
    (unplaced (.domain "a")).uri ≠ (unplaced (.nameserver "a")).uri := by
  obtain ⟨hname, hpattern, hsame⟩ := uri_read_back
  refine ⟨?_, ?_, ?_⟩
  · obtain ⟨part, huri, hback, -⟩ := hname (unplaced (.domain "ä/b")) (by decide)
    exact ⟨part, huri, hback⟩
  · obtain ⟨value, huri, hpairs, -⟩ :=
      hpattern (unplaced (.search .entities "a +*")) .entities rfl
    have hwritten : (unplaced (.search .entities "a +*")).uri =
        "entities".toList ++ '?' :: "fn=a+%2B*".toList := by decide
    have hvalue := (List.cons.inj (List.append_cancel_left (huri.symm.trans hwritten))).2
    rwa [hvalue] at hpairs
  · intro he
    obtain ⟨hkind, -⟩ := (hsame _ _ (by decide) (by decide)).1 he
    exact absurd hkind (by decide)

end RdapDirectory.Request
