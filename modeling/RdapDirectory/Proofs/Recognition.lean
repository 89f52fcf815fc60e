import RdapDirectory.Proofs.SystemRanges
import RdapDirectory.Proofs.WebUrls

namespace RdapDirectory

open Text

namespace Text

theorem mem_of_mem_strip {p : Char → Bool} {cs : List Char} {c : Char} (hc : c ∈ strip p cs) :
    c ∈ cs := by
  have hback := (List.dropWhile_sublist p).mem (List.mem_reverse.1 hc)
  exact (List.dropWhile_sublist p).mem (List.mem_reverse.1 hback)

theorem decimalValue_zeros (zeros : Nat) (cs : List Char) :
    decimalValue (List.replicate zeros '0' ++ cs) = decimalValue cs := by
  induction zeros with
  | zero => rfl
  | succ zeros ih =>
    have hdigit : 10 * 0 + digitValue '0' = 0 := by decide
    rw [List.replicate_succ, List.cons_append, decimalValue, List.foldl_cons, hdigit]
    exact ih

end Text

namespace Url

theorem mem_of_mem_clean {cs : List Char} {c : Char} (hc : c ∈ clean cs) : c ∈ cs :=
  mem_of_mem_strip (List.mem_filter.1 hc).1

theorem exists_of_cutScheme? {cs rest : List Char} {scheme : String}
    (h : cutScheme? cs = some (scheme, rest)) {d : Char} (hd : d ∈ scheme.toList) :
    ∃ c ∈ cs, c.toLower = d := by
  unfold cutScheme? at h
  split at h
  · split at h
    · cases h
      rw [String.toList_ofList, List.mem_map] at hd
      obtain ⟨c, hc, hlower⟩ := hd
      exact ⟨c, (List.takeWhile_sublist _).mem hc, hlower⟩
    · cases h
  · cases h

theorem exists_cutScheme? {cs : List Char} {u : Url} (h : readChars cs = .ok u) :
    ∃ rest, cutScheme? (clean cs) = some (u.scheme, rest) := by
  unfold readChars at h
  simp only [bind, Except.bind, pure, Except.pure] at h
  split at h
  · cases h
  · rename_i scheme rest hcut
    split at h <;> cases h
    exact ⟨rest, hcut⟩

theorem isWeb_of_free {cs : List Char} {u : Url} (h : readChars cs = .ok u)
    (hfree : ∀ c ∈ cs, c.toLower ≠ 'h') : u.isWeb = false := by
  apply Bool.eq_false_of_not_eq_true
  intro hweb
  have hscheme : 'h' ∈ u.scheme.toList := by
    have hcases : u.scheme = "http" ∨ u.scheme = "https" := by simpa [isWeb] using hweb
    rcases hcases with he | he <;> rw [he] <;> decide
  obtain ⟨rest, hcut⟩ := exists_cutScheme? h
  obtain ⟨c, hc, hlower⟩ := exists_of_cutScheme? hcut hscheme
  exact hfree c (mem_of_mem_clean hc) hlower

end Url

namespace Ip

theorem octets?_of_free {cs : List Char} (h : '.' ∉ cs) : octets? cs = none := by
  have hpieces : pieces (· == '.') cs = [cs] := pieces_of_free fun c hc => by
    have hne : c ≠ '.' := fun he => h (he ▸ hc)
    simpa using hne
  unfold octets?
  rw [hpieces]
  cases ho : octet? cs <;> simp [ho]

theorem groups?_of_free {cs : List Char} (hdot : '.' ∉ cs) (hcolon : ':' ∉ cs) :
    groups? cs = none := by
  have hpieces : pieces (· == ':') cs = [cs] := pieces_of_free fun c hc => by
    have hne : c ≠ ':' := fun he => hcolon (he ▸ hc)
    simpa using hne
  have hgap : cutGap? cs = none := by
    rw [← List.append_nil cs, Address.cutGap?_append_of_free hcolon]
    rfl
  unfold groups?
  rw [hgap]
  unfold side?
  rw [hpieces, groupsOf?, octets?_of_free hdot]
  cases hg : group? cs <;> by_cases hempty : cs.isEmpty = true <;> simp [hempty]

theorem Address.read?_of_free {cs : List Char} (hdot : '.' ∉ cs) (hcolon : ':' ∉ cs) :
    read? cs = none := by
  simp [read?, readV4?, readV6?, octets?_of_free hdot, groups?_of_free hdot hcolon]

theorem Block.read?_of_free {cs : List Char} (h : '/' ∉ cs) : read? cs = none := by
  have hcut : cut? (· == '/') cs = none := cut?_eq_none_iff.2 h
  simp [read?, hcut]

theorem Network.network_toBlock (n : Network) : n.toBlock.network = n := by
  obtain ⟨b, hlowest⟩ := n
  simp only [Block.network, hlowest]

end Ip

namespace Request

open Registry

theorem detect_of_free {s : String} (hfree : ∀ c ∈ s.toList, c.toLower ≠ 'h') :
    detect s = unplaced (subjectOf s) := by
  apply detect_of_not_web
  intro u hu
  exact Url.isWeb_of_free hu hfree

theorem free_of_isSign {c : Char} (h : Ip.Address.isSign c = true) : c.toLower ≠ 'h' :=
  Idna.forall_basic (P := fun c => Ip.Address.isSign c = true → c.toLower ≠ 'h')
    (by decide) (Url.isBasic_of_isSign h) h

theorem free_of_isDigit {c : Char} (h : isDigit c = true) : c.toLower ≠ 'h' :=
  free_of_isSign (Ip.Address.isSign_of_isDigit h)

theorem isSign_of_mem_write {a : Ip.Address} {c : Char} (hc : c ∈ a.write) :
    Ip.Address.isSign c = true :=
  Ip.Address.isSign_of_read? (Ip.Address.read?_write a) c hc

theorem free_of_mem_write {n : Ip.Network} {c : Char} (hc : c ∈ n.write) : c.toLower ≠ 'h' := by
  rw [Ip.Block.write, List.mem_append, List.mem_cons] at hc
  obtain hc | rfl | hc := hc
  · exact free_of_isSign (isSign_of_mem_write hc)
  · decide
  · exact free_of_isDigit (isDigit_of_mem_decimalDigits hc)

theorem signs_of_numbers {s : String} {n : Nat} (h : Systems.Numbers s n) :
    ∀ c ∈ s.toList, c ∈ "asAS".toList ∨ isDigit c = true := by
  have hall : ∀ letters ∈ ["", "as", "aS", "As", "AS"],
      letters.toList.all "asAS".toList.contains = true := by decide
  obtain ⟨letters, digits, hl, hs, -, hd, -, -⟩ := h
  intro c hc
  rw [hs, List.mem_append] at hc
  obtain hc | hc := hc
  · exact .inl (List.contains_iff_mem.1 (List.all_eq_true.1 (hall letters hl) c hc))
  · exact .inr (hd c hc)

theorem free_of_numbers {s : String} {n : Nat} (h : Systems.Numbers s n) :
    ∀ c ∈ s.toList, c.toLower ≠ 'h' := by
  have hletters : "asAS".toList.all (·.toLower != 'h') = true := by decide
  intro c hc
  obtain hl | hd := signs_of_numbers h c hc
  · simpa using List.all_eq_true.1 hletters c hl
  · exact free_of_isDigit hd

theorem not_mem_of_numbers {s : String} {n : Nat} (h : Systems.Numbers s n) {sep : Char}
    (hletter : sep ∉ "asAS".toList) (hdigit : isDigit sep = false) : sep ∉ s.toList := by
  intro hc
  obtain hl | hd := signs_of_numbers h sep hc
  · exact hletter hl
  · rw [hdigit] at hd
    cases hd

theorem subjectOf_address {s : String} {a : Ip.Address} (h : Ip.Address.read? s.toList = some a) :
    subjectOf s = .address a := by
  simp only [subjectOf, h]

theorem subjectOf_network {s : String} {b : Ip.Block} (h : Ip.Block.read? s.toList = some b) :
    subjectOf s = .network b.network := by
  have hnone : Ip.Address.read? s.toList = none := by
    apply Option.eq_none_iff_forall_ne_some.2
    intro a ha
    exact Ip.Address.slash_not_mem_of_read? ha (Networks.slash_mem_of_read? h)
  simp only [subjectOf, hnone, h]

theorem subjectOf_system {s : String} {n : SystemNumber} (h : Systems.Numbers s n) :
    subjectOf s = .system n := by
  have hdot : '.' ∉ s.toList := not_mem_of_numbers h (by decide) (by decide)
  have hcolon : ':' ∉ s.toList := not_mem_of_numbers h (by decide) (by decide)
  have hslash : '/' ∉ s.toList := not_mem_of_numbers h (by decide) (by decide)
  obtain ⟨hn, hnumber⟩ := Systems.number?_of_numbers h
  simp only [subjectOf, Ip.Address.read?_of_free hdot hcolon, Ip.Block.read?_of_free hslash,
    hnumber]

theorem detect_address (a : Ip.Address) :
    detect (unplaced (.address a)).text = unplaced (.address a) := by
  have htext : (unplaced (.address a)).text.toList = a.write := String.toList_ofList
  rw [detect_of_free, subjectOf_address]
  · rw [htext, Ip.Address.read?_write]
  · rw [htext]
    intro c hc
    exact free_of_isSign (isSign_of_mem_write hc)

theorem detect_network (n : Ip.Network) :
    detect (unplaced (.network n)).text = unplaced (.network n) := by
  have htext : (unplaced (.network n)).text.toList = n.write := String.toList_ofList
  rw [detect_of_free, subjectOf_network (b := n.toBlock), Ip.Network.network_toBlock]
  · rw [htext, Ip.Block.read?_write]
  · rw [htext]
    intro c hc
    exact free_of_mem_write hc

theorem detect_numbers {s : String} {n : SystemNumber} (h : Systems.Numbers s n) :
    detect s = unplaced (.system n) := by
  rw [detect_of_free (free_of_numbers h), subjectOf_system h]

theorem numbers_padded {letters : String} (hl : letters ∈ ["", "as", "aS", "As", "AS"])
    (zeros : Nat) (n : SystemNumber) :
    Systems.Numbers (letters ++ .ofList (List.replicate zeros '0' ++ decimalDigits n)) n := by
  refine ⟨letters, List.replicate zeros '0' ++ decimalDigits n, hl, by simp, ?_, ?_, ?_, n.isLt⟩
  · intro he
    exact Nat.toDigits_ne_nil (List.append_eq_nil_iff.1 he).2
  · intro c hc
    obtain hc | hc := List.mem_append.1 hc
    · rw [List.eq_of_mem_replicate hc]
      decide
    · exact isDigit_of_mem_decimalDigits hc
  · rw [decimalValue_zeros, decimalValue_decimalDigits]

theorem detect_padded {letters : String} (hl : letters ∈ ["", "as", "aS", "As", "AS"])
    (zeros : Nat) (n : SystemNumber) :
    detect (letters ++ .ofList (List.replicate zeros '0' ++ decimalDigits n)) =
      unplaced (.system n) :=
  detect_numbers (numbers_padded hl zeros n)

theorem detect_system (n : SystemNumber) :
    detect (unplaced (.system n)).text = unplaced (.system n) := by
  have hnone : "" ∈ ["", "as", "aS", "As", "AS"] := List.mem_cons_self
  have hdigits := detect_padded hnone 0 n
  rwa [List.replicate_zero, List.nil_append, String.empty_append] at hdigits

theorem detect_subjectOf {s : String} (h : ∀ u, Url.read s = .ok u → u.isWeb = false) :
    detect (unplaced (subjectOf s)).text = unplaced (subjectOf s) := by
  obtain ⟨a, -, he⟩ | ⟨b, -, he⟩ | ⟨n, -, he⟩ | he | he := subjectOf_cases s
  · rw [he]
    exact detect_address a
  · rw [he]
    exact detect_network b.network
  · rw [he]
    exact detect_system n
  · have htext : (unplaced (subjectOf s)).text = s := by rw [he]; rfl
    rw [htext, detect_of_not_web h]
  · have htext : (unplaced (subjectOf s)).text = s := by rw [he]; rfl
    rw [htext, detect_of_not_web h]

/-- Guessing undoes writing. A number may have zeros in front of it, behind its two letters or
without them; and of every text that is no URL of the web, the request guessed has a text that is
guessed to be the same request. -/
theorem detect_text :
    (∀ n, detect (unplaced (.system n)).text = unplaced (.system n)) ∧
    (∀ a, detect (unplaced (.address a)).text = unplaced (.address a)) ∧
    (∀ n, detect (unplaced (.network n)).text = unplaced (.network n)) ∧
    (∀ letters ∈ ["", "as", "aS", "As", "AS"], ∀ (zeros : Nat) (n : SystemNumber),
      detect (letters ++ .ofList (List.replicate zeros '0' ++ decimalDigits n)) =
        unplaced (.system n)) ∧
    ∀ s, (∀ u, Url.read s = .ok u → u.isWeb = false) → detect (detect s).text = detect s := by
  refine ⟨detect_system, detect_address, detect_network, ?_, ?_⟩
  · intro letters hl zeros n
    exact detect_padded hl zeros n
  · intro s h
    rw [detect_of_not_web h]
    exact detect_subjectOf h

/-- The text `fe80::1` is a URL as well, though not one of the web. -/
theorem detect_text_colons :
    detect "AS007" = unplaced (.system ⟨7, by decide⟩) ∧
      (∃ u, Url.read "fe80::1" = .ok u ∧ u.isWeb = false) ∧
      detect (detect "fe80::1").text = detect "fe80::1" := by
  have hread : (Url.read "fe80::1").map Url.isWeb = .ok false := by decide +kernel
  have hzeros : "AS" ++ .ofList (List.replicate 2 '0' ++ decimalDigits 7) = "AS007" := by decide
  obtain ⟨-, -, -, hpadded, hself⟩ := detect_text
  obtain ⟨u, hu, hweb⟩ := exists_of_map hread
  refine ⟨?_, ⟨u, hu, hweb⟩, ?_⟩
  · rw [← hzeros]
    exact hpadded "AS" (by decide) 2 ⟨7, by decide⟩
  · apply hself
    intro v hv
    cases hu.symm.trans hv
    exact hweb

end Request

end RdapDirectory
