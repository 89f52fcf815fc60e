import RdapDirectory.Proofs.WebTexts

namespace RdapDirectory.Request

open Text Url Idna

theorem isBasic_of_isAlphanum {c : Char} (h : c.isAlphanum = true) :
    Punycode.isBasic c = true := by
  simp only [Char.isAlphanum, Char.isAlpha, Char.isUpper, Char.isLower, Char.isDigit,
    Bool.or_eq_true, Bool.and_eq_true, decide_eq_true_eq] at h
  rcases h with (⟨-, h⟩ | ⟨-, h⟩) | ⟨-, h⟩
  · exact Punycode.isBasic_of_le (d := 'Z') h (by decide)
  · exact Punycode.isBasic_of_le (d := 'z') h (by decide)
  · exact Punycode.isBasic_of_le (d := '9') h (by decide)

theorem isPathSafe_facts {c : Char} (h : isPathSafe c = true) :
    isPlainSign c = true ∧ c ≠ '%' ∧ (c.toLower = '.' → c = '.') ∧ c.toLower ≠ '%' := by
  have hbasic : Punycode.isBasic c = true := by
    rcases Bool.or_eq_true_iff.1 h with h | h
    · exact isBasic_of_isAlphanum h
    · have hall : "-_.~$&+:=@".toList.all Punycode.isBasic = true := by decide
      exact List.all_eq_true.1 hall c (List.contains_iff_mem.1 h)
  exact forall_basic (P := fun c => isPathSafe c = true →
      isPlainSign c = true ∧ c ≠ '%' ∧ (c.toLower = '.' → c = '.') ∧ c.toLower ≠ '%')
    (by decide) hbasic h

theorem isPlainSign_of_isSign {c : Char} (h : Ip.Address.isSign c = true) :
    isPlainSign c = true :=
  forall_basic (P := fun c => Ip.Address.isSign c = true → isPlainSign c = true)
    (by decide) (isBasic_of_isSign h) h

theorem dots_have_dot {n : List Char} (hn : n ∈ dots) : '.' ∈ n ∨ '%' ∈ n := by
  have hall : ∀ n ∈ dots, '.' ∈ n ∨ '%' ∈ n := by decide
  exact hall n hn

theorem settled_of_plain {cs : List Char} (hplain : ∀ c ∈ cs, isPlainSign c = true)
    (hdots : cs.map Char.toLower ∉ dots) : Settled cs := by
  constructor
  · intro c hc
    exact (isPlainSign_iff.1 (hplain c hc)).1
  · intro c hc
    exact (isPlainSign_iff.1 (hplain c hc)).2
  · exact Bool.eq_false_of_not_eq_true fun h => hdots (mem_dots_of_isUp h)
  · exact Bool.eq_false_of_not_eq_true fun h => hdots (mem_dots_of_isHere h)

theorem digits_settled (n : Nat) : Settled (decimalDigits n) := by
  have hdigit : ∀ c ∈ decimalDigits n, isDigit c = true := fun c hc =>
    isDigit_of_mem_decimalDigits hc
  apply settled_of_plain
  · intro c hc
    exact isPlainSign_of_isSign (Ip.Address.isSign_of_isDigit (hdigit c hc))
  · intro h
    rw [map_toLower_of_digits hdigit] at h
    rcases dots_have_dot h with hc | hc
    · exact absurd (hdigit '.' hc) (by decide)
    · exact absurd (hdigit '%' hc) (by decide)

theorem address_settled (a : Ip.Address) : Settled a.write := by
  apply settled_of_plain
  · intro c hc
    exact isPlainSign_of_isSign (Ip.Address.isSign_of_read? (Ip.Address.read?_write a) c hc)
  · intro h
    cases hf : a.family with
    | v4 =>
      have hnone : ∀ n ∈ dots, Ip.Address.readV4? n = none := by decide
      rw [Ip.Address.write_v4 hf, map_toLower_writeV4] at h
      have hv4 := hnone _ h
      rw [Ip.Address.readV4?_writeV4 hf] at hv4
      cases hv4
    | v6 =>
      have hnone : ∀ n ∈ dots, ':' ∉ n := by decide
      exact hnone _ h (List.mem_map.2 ⟨':', Ip.Address.colon_mem_write hf, by decide⟩)

theorem nameText_plain (name : String) :
    ∀ c ∈ escape isPathSafe name.toList, isPlainSign c = true := by
  apply forall_mem_escape
  · exact fun c _ hc => (isPathSafe_facts hc).1
  · decide

theorem eq_dots_of_map {cs ds : List Char} (hsafe : ∀ c ∈ cs, isPathSafe c = true)
    (hds : ∀ d ∈ ds, d = '.') (h : cs.map Char.toLower = ds) : cs = ds := by
  induction cs generalizing ds with
  | nil => exact h
  | cons c r ih =>
    cases ds with
    | nil => cases h
    | cons d ds =>
      obtain ⟨hc, hr⟩ := List.cons.inj h
      have hd : d = '.' := hds d (by simp)
      have hchar : c = '.' := (isPathSafe_facts (hsafe c (by simp))).2.2.1 (hc.trans hd)
      have hrest := ih (fun x hx => hsafe x (List.mem_cons_of_mem _ hx))
        (fun x hx => hds x (List.mem_cons_of_mem _ hx)) hr
      rw [hrest, hchar, hd]

theorem name_of_dotted {name : String}
    (h : (escape isPathSafe name.toList).map Char.toLower ∈ dots) : name = "." ∨ name = ".." := by
  have hsafe := escape_of_dotted (by decide) h
  rw [escape_of_kept hsafe] at h
  have hpercent : '%' ∉ name.toList.map Char.toLower := by
    intro hc
    obtain ⟨c, hc, he⟩ := List.mem_map.1 hc
    exact (isPathSafe_facts (hsafe c hc)).2.2.2 he
  have hall : ∀ n ∈ dots, '%' ∉ n → n = ['.'] ∨ n = ['.', '.'] := by decide
  rcases hall _ h hpercent with hn | hn
  · have hname := eq_dots_of_map hsafe (by simp) hn
    exact .inl (String.toList_inj.1 hname)
  · have hname := eq_dots_of_map hsafe (by simp) hn
    exact .inr (String.toList_inj.1 hname)

theorem name_settled {name : String} (hone : name ≠ ".") (htwo : name ≠ "..") :
    Settled (escape isPathSafe name.toList) := by
  apply settled_of_plain (nameText_plain name)
  intro h
  rcases name_of_dotted h with he | he
  · exact hone he
  · exact htwo he

theorem word_settled {word : String} (hplain : word.toList.all isPlainSign = true)
    (hdots : word.toList.map Char.toLower ∉ dots) : Settled word.toList :=
  settled_of_plain (List.all_eq_true.1 hplain) hdots

def namedKinds : List String := ["domain", "entity", "nameserver"]

namespace Subject

def parts : Subject → List (List Char)
  | domain name => ["domain".toList, escape isPathSafe name.toList]
  | address a => ["ip".toList, a.write]
  | network n => ["ip".toList, n.address.write, decimalDigits n.length]
  | system n => ["autnum".toList, decimalDigits n]
  | entity handle => ["entity".toList, escape isPathSafe handle.toList]
  | nameserver name => ["nameserver".toList, escape isPathSafe name.toList]
  | help => ["help".toList]
  | search p _ => [p.path.toList]

def query? : Subject → Option (List Char)
  | search p pattern => some (p.key.toList ++ '=' :: formValue pattern.toList)
  | _ => none

/-- The kind and the name of a subject that is asked for by its name. -/
def named? : Subject → Option (String × String)
  | domain name => some ("domain", name)
  | entity handle => some ("entity", handle)
  | nameserver name => some ("nameserver", name)
  | address _ | network _ | system _ | help | search .. => none

theorem parts_ne_nil (s : Subject) : s.parts ≠ [] := by
  cases s <;> exact List.cons_ne_nil _ _

theorem intercalate_pair (x y : List Char) : List.intercalate ['/'] [x, y] = x ++ '/' :: y := by
  rw [intercalate_cons, List.intercalate_singleton]

theorem uri_of_kind {word kind : String} (h : word.toList = kind.toList ++ ['/'])
    (cs : List Char) :
    word.toList ++ cs = List.intercalate ['/'] [kind.toList, cs] ++ queryText none := by
  rw [h, intercalate_pair, queryText, List.append_nil, List.append_assoc, List.singleton_append]

theorem uri_eq (s : Subject) :
    s.uri = List.intercalate ['/'] s.parts ++ queryText s.query? := by
  have hip : "ip/".toList = "ip".toList ++ ['/'] := by decide
  cases s with
  | domain name => exact uri_of_kind (by decide) _
  | address a => exact uri_of_kind hip _
  | network n =>
    have hpair := intercalate_pair n.address.write (decimalDigits n.length)
    have hthree : List.intercalate ['/'] (parts (network n)) =
        List.intercalate ['/'] ["ip".toList, n.write] := by
      rw [parts, intercalate_cons, hpair, intercalate_pair]
      rfl
    rw [hthree]
    exact uri_of_kind hip _
  | system n => exact uri_of_kind (by decide) _
  | entity handle => exact uri_of_kind (by decide) _
  | nameserver name => exact uri_of_kind (by decide) _
  | help =>
    change "help".toList = List.intercalate ['/'] ["help".toList] ++ queryText none
    rw [List.intercalate_singleton, queryText, List.append_nil]
  | search p pattern =>
    change p.path.toList ++ '?' :: p.key.toList ++ '=' :: formValue pattern.toList =
      List.intercalate ['/'] [p.path.toList] ++
        queryText (some (p.key.toList ++ '=' :: formValue pattern.toList))
    rw [List.intercalate_singleton, queryText, List.append_assoc, List.cons_append]

theorem parts_of_named {s : Subject} {kind name : String} (h : s.named? = some (kind, name)) :
    s.parts = [kind.toList, escape isPathSafe name.toList] ∧ s.query? = none ∧ s.kind = kind ∧
      s.text = name ∧ kind ∈ namedKinds := by
  cases s with
  | domain | entity | nameserver =>
    cases h
    exact ⟨rfl, rfl, rfl, rfl, by simp [namedKinds]⟩
  | address | network | system | help | search => cases h

theorem kind_settled {kind : String} (h : kind ∈ namedKinds) :
    Settled kind.toList := by
  simp only [namedKinds, List.mem_cons, List.not_mem_nil, or_false] at h
  rcases h with rfl | rfl | rfl <;> exact word_settled (by decide) (by decide)

theorem settled_of_not_named {s : Subject} (h : s.named? = none) :
    ∀ part ∈ s.parts, Settled part := by
  have hip : Settled "ip".toList := word_settled (by decide) (by decide)
  have hautnum : Settled "autnum".toList := word_settled (by decide) (by decide)
  have hhelp : Settled "help".toList := word_settled (by decide) (by decide)
  cases s with
  | domain | entity | nameserver => cases h
  | address a => simpa [parts] using ⟨hip, address_settled a⟩
  | network n =>
    simpa [parts] using ⟨hip, address_settled n.address, digits_settled n.length⟩
  | system n => simpa [parts] using ⟨hautnum, digits_settled n⟩
  | help => simpa [parts] using hhelp
  | search p pattern =>
    have hpath : Settled p.path.toList := by
      cases p <;> exact word_settled (by decide) (by decide)
    simpa [parts] using hpath

theorem parts_plain (s : Subject) : ArePlain s.parts := by
  cases h : s.named? with
  | none => exact arePlain_of_settled (settled_of_not_named h)
  | some x =>
    obtain ⟨hparts, -, -, -, hkind⟩ := parts_of_named h
    rw [hparts]
    intro part hpart
    simp only [List.mem_cons, List.not_mem_nil, or_false] at hpart
    rcases hpart with rfl | rfl
    · intro c hc
      exact isPlainSign_iff.2 ⟨(kind_settled hkind).kept c hc, (kind_settled hkind).free c hc⟩
    · exact nameText_plain x.2

end Subject

theorem isValueSafe_facts {c : Char} (h : isValueSafe c = true) :
    keptInQuery true c = true ∧ c ≠ '+' := by
  have hbasic : Punycode.isBasic c = true := by
    simp only [isValueSafe, Bool.or_eq_true, beq_iff_eq] at h
    rcases h with (((h | rfl) | rfl) | rfl) | rfl
    · exact isBasic_of_isAlphanum h
    · decide
    · decide
    · decide
    · decide
  exact forall_basic (P := fun c => isValueSafe c = true → keptInQuery true c = true ∧ c ≠ '+')
    (by decide) hbasic h

def isBlankOrSafe (c : Char) : Bool := isValueSafe c || c == ' '

def plusForBlank (c : Char) : Char := if c = ' ' then '+' else c

def blankForPlus (c : Char) : Char := if c = '+' then ' ' else c

theorem formValue_cons (c : Char) (r : List Char) :
    formValue (c :: r) =
      (if c = ' ' then ['+'] else if isValueSafe c then [c] else escapeChar c) ++ formValue r := by
  have hone : escape isValueSafe [c] = if isValueSafe c then [c] else escapeChar c := by
    simp [escape]
  rw [← hone, formValue, formValue, List.flatMap_cons]

theorem plusForBlank_escapeChar (c : Char) :
    (escapeChar c).map plusForBlank = escapeChar c := by
  have hblank : escapeSigns.all (· != ' ') = true := by decide
  have hsame : ∀ x ∈ escapeChar c, plusForBlank x = id x := by
    intro x hx
    obtain ⟨b, -, hb⟩ := List.mem_flatMap.1 hx
    have hne : x ≠ ' ' := by simpa using List.all_eq_true.1 hblank x (mem_escapeOctet hb)
    rw [plusForBlank, if_neg hne, id]
  rw [List.map_congr_left hsame, List.map_id]

theorem formValue_eq (cs : List Char) :
    formValue cs = (escape isBlankOrSafe cs).map plusForBlank := by
  induction cs with
  | nil => rfl
  | cons c r ih =>
    rw [formValue_cons, escape_cons, List.map_append, ← ih]
    congr 1
    by_cases hblank : c = ' '
    · subst hblank
      rfl
    · have hsame : isBlankOrSafe c = isValueSafe c := by simp [isBlankOrSafe, hblank]
      rw [if_neg hblank, hsame]
      split
      · simp [plusForBlank, hblank]
      · rw [plusForBlank_escapeChar]

theorem map_blankForPlus_formValue (cs : List Char) :
    (formValue cs).map blankForPlus = escape isBlankOrSafe cs := by
  have hplus : ∀ c ∈ escape isBlankOrSafe cs, (c != '+') = true := by
    apply forall_mem_escape
    · intro c _ hc
      rcases Bool.or_eq_true_iff.1 hc with hsafe | hblank
      · simpa using (isValueSafe_facts hsafe).2
      · rw [beq_iff_eq.1 hblank]
        decide
    · decide
  have hsame : ∀ c ∈ escape isBlankOrSafe cs, (blankForPlus ∘ plusForBlank) c = id c := by
    intro c hc
    have hne : c ≠ '+' := by simpa using hplus c hc
    by_cases hblank : c = ' '
    · subst hblank
      rfl
    · simp [plusForBlank, blankForPlus, hblank, hne]
  rw [formValue_eq, List.map_map, List.map_congr_left hsame, List.map_id]

theorem formValue_injective {cs ds : List Char} (h : formValue cs = formValue ds) : cs = ds := by
  have he : escape isBlankOrSafe cs = escape isBlankOrSafe ds := by
    rw [← map_blankForPlus_formValue cs, h, map_blankForPlus_formValue]
  exact escape_injective (by decide) he

theorem formValue_kept (cs : List Char) : ∀ c ∈ formValue cs, keptInQuery true c = true := by
  rw [formValue_eq]
  intro c hc
  obtain ⟨x, hx, rfl⟩ := List.mem_map.1 hc
  have hall : ∀ x ∈ escape isBlankOrSafe cs, keptInQuery true (plusForBlank x) = true := by
    apply forall_mem_escape (p := fun x => keptInQuery true (plusForBlank x))
    · intro x _ hx
      by_cases hblank : x = ' '
      · subst hblank
        decide
      · have hsafe : isValueSafe x = true := by simpa [isBlankOrSafe, hblank] using hx
        rw [plusForBlank, if_neg hblank]
        exact (isValueSafe_facts hsafe).1
    · decide
  exact hall x hx

namespace Subject

theorem query_kept (s : Subject) : ∀ q ∈ s.query?, ∀ c ∈ q, keptInQuery true c = true := by
  intro q hq c hc
  cases s with
  | search p pattern =>
    cases hq
    rcases List.mem_append.1 hc with hc | hc
    · have hkey : p.key.toList.all (keptInQuery true) = true := by cases p <;> decide
      exact List.all_eq_true.1 hkey c hc
    · rcases List.mem_cons.1 hc with rfl | hc
      · decide
      · exact formValue_kept pattern.toList c hc
  | domain | address | network | system | entity | nameserver | help => cases hq

theorem named?_eq (s : Subject) :
    s.named? = if s.kind ∈ namedKinds then some (s.kind, s.text)
      else none := by
  have hsearch : ∀ p ∈ Search.all, p.name ∉ namedKinds := by decide
  cases s with
  | search p pattern =>
    have hp : p ∈ Search.all := by cases p <;> decide
    exact (if_neg (hsearch p hp)).symm
  | domain | address | network | system | entity | nameserver | help => rfl

end Subject

def stemOf (kind : String) : List Char :=
  match Search.all.find? (·.name = kind) with
  | some p => p.path.toList ++ '?' :: p.key.toList ++ ['=']
  | none => if kind = "help" then kind.toList else kind.toList ++ ['/']

def spellingOf (kind : String) : List Char → List Char :=
  if kind ∈ namedKinds then escape isPathSafe
  else if (Search.all.find? (·.name = kind)).isSome then formValue
  else id

theorem spellingOf_injective (kind : String) {cs ds : List Char}
    (h : spellingOf kind cs = spellingOf kind ds) : cs = ds := by
  unfold spellingOf at h
  split at h
  · exact escape_injective (by decide) h
  · split at h
    · exact formValue_injective h
    · exact h

namespace Subject

theorem uri_eq_spelling (s : Subject) :
    s.uri = stemOf s.kind ++ spellingOf s.kind s.text.toList := by
  have hself : ∀ kind ∈ ["ip", "autnum"], ∀ cs, spellingOf kind (String.ofList cs).toList = cs := by
    intro kind hkind cs
    simp only [List.mem_cons, List.not_mem_nil, or_false] at hkind
    rw [String.toList_ofList]
    rcases hkind with rfl | rfl <;> rfl
  cases s with
  | domain name =>
    have hstem : stemOf "domain" = "domain/".toList := by decide
    exact congrArg (· ++ spellingOf "domain" name.toList) hstem.symm
  | address a =>
    have hstem : stemOf "ip" = "ip/".toList := by decide
    exact congrArg₂ (· ++ ·) hstem.symm (hself "ip" (by simp) a.write).symm
  | network n =>
    have hstem : stemOf "ip" = "ip/".toList := by decide
    exact congrArg₂ (· ++ ·) hstem.symm (hself "ip" (by simp) n.write).symm
  | system n =>
    have hstem : stemOf "autnum" = "autnum/".toList := by decide
    exact congrArg₂ (· ++ ·) hstem.symm (hself "autnum" (by simp) (decimalDigits n)).symm
  | entity handle =>
    have hstem : stemOf "entity" = "entity/".toList := by decide
    exact congrArg (· ++ spellingOf "entity" handle.toList) hstem.symm
  | nameserver name =>
    have hstem : stemOf "nameserver" = "nameserver/".toList := by decide
    exact congrArg (· ++ spellingOf "nameserver" name.toList) hstem.symm
  | help =>
    have hstem : stemOf "help" = "help".toList := by decide
    exact (hstem.trans (List.append_nil _).symm).symm
  | search p pattern =>
    have hstem : stemOf p.name = p.path.toList ++ '?' :: p.key.toList ++ ['='] := by
      cases p <;> decide
    have hspelling : spellingOf p.name = formValue := by
      cases p <;> rfl
    change p.path.toList ++ '?' :: p.key.toList ++ '=' :: formValue pattern.toList =
      stemOf p.name ++ spellingOf p.name pattern.toList
    rw [hstem, hspelling, List.append_assoc _ ['='], List.singleton_append]

theorem uri_injective {s s' : Subject} (hkind : s.kind = s'.kind) (h : s.uri = s'.uri) :
    s.text = s'.text := by
  rw [uri_eq_spelling, uri_eq_spelling, hkind] at h
  exact String.toList_inj.1 (spellingOf_injective s'.kind (List.append_cancel_left h))

end Subject

end RdapDirectory.Request
