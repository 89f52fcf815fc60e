import RdapDirectory.Proofs.AddressTexts
import RdapDirectory.Proofs.AsciiNames
import RdapDirectory.Proofs.Escapes
import RdapDirectory.Url.Reader

namespace RdapDirectory.Url

open Text Ip Idna

def Host.Settled : Host → Prop
  | .domain d => d.chars ≠ [] ∧ endsInNumber d.chars = false
  | .address _ => True
  | .empty | .plain _ => False

theorem settled_of_bracketed? {cs : List Char} {host : Host} (h : bracketed? cs = .ok host) :
    host.Settled := by
  unfold bracketed? at h
  split at h
  · cases h
    trivial
  · cases h

theorem settled_of_namedHost? {cs : List Char} {host : Host} (h : namedHost? cs = .ok host) :
    host.Settled := by
  unfold namedHost? at h
  split at h
  · exact settled_of_bracketed? h
  · split at h
    · cases h
    · rename_i name _
      by_cases hempty : name.isEmpty = true
      · rw [if_pos hempty] at h
        cases h
      · rw [if_neg hempty] at h
        by_cases hnumber : endsInNumber name = true
        · rw [if_pos hnumber] at h
          split at h
          · cases h
            trivial
          · cases h
        · rw [if_neg hnumber] at h
          split at h
          · cases h
            exact ⟨by simpa using hempty, Bool.eq_false_of_not_eq_true hnumber⟩
          · cases h

theorem isBasic_of_isHexDigit {c : Char} (h : isHexDigit c = true) :
    Punycode.isBasic c = true := by
  obtain ⟨n, hn⟩ := Option.isSome_iff_exists.1 h
  unfold hexValue? at hn
  split at hn
  · rename_i hc
    exact isBasic_of_isDigit hc
  · split at hn
    · rename_i hc
      exact Punycode.isBasic_of_le (of_decide_eq_true (Bool.and_eq_true_iff.1 hc).2) (by decide)
    · split at hn
      · rename_i hc
        exact Punycode.isBasic_of_le (of_decide_eq_true (Bool.and_eq_true_iff.1 hc).2) (by decide)
      · cases hn

theorem writeV4_signs (a : Address) : ∀ c ∈ a.writeV4, isAllowed c = true ∧ c.toLower = c := by
  intro c hc
  rcases Address.mem_writeV4 a c hc with rfl | hd
  · decide
  · exact ⟨(isDigit_facts hd).1, (isDigit_facts hd).2.1⟩

theorem map_toLower_writeV4 (a : Address) : a.writeV4.map Char.toLower = a.writeV4 := by
  have hsame : a.writeV4.map Char.toLower = a.writeV4.map id :=
    List.map_congr_left fun c hc => (writeV4_signs a c hc).2
  rw [hsame, List.map_id]

theorem toAscii?_writeV4 (a : Address) : toAscii? a.writeV4 = some a.writeV4 := by
  have hbasic : a.writeV4.all Punycode.isBasic = true :=
    List.all_eq_true.2 fun c hc => (Bool.and_eq_true_iff.1 (writeV4_signs a c hc).1).1
  have hdenied : a.writeV4.any isDenied = false := by
    apply List.any_eq_false.2
    intro c hc
    simpa using (Bool.and_eq_true_iff.1 (writeV4_signs a c hc).1).2
  have hlabels : (pieces isDot (a.writeV4.map Char.toLower)).all (!hasSign ·) = true := by
    have hpieces : pieces isDot a.writeV4 = a.octets.map decimalDigits := Address.writeV4_pieces a
    rw [map_toLower_writeV4, hpieces]
    apply List.all_eq_true.2
    intro part hpart
    obtain ⟨n, -, rfl⟩ := List.mem_map.1 hpart
    have hx : ∀ r, decimalDigits n ≠ 'x' :: r := by
      intro r hr
      have hd := isDigit_of_mem_decimalDigits (n := n) (c := 'x') (by simp [hr])
      exact (isDigit_facts hd).2.2 rfl
    unfold hasSign
    split
    · rename_i he
      exact absurd he (hx _)
    · rfl
  have hplain : isPlain a.writeV4 = true := Bool.and_eq_true_iff.2 ⟨hbasic, hlabels⟩
  rw [toAscii?, if_pos hplain, hdenied, map_toLower_writeV4]
  rfl

theorem looseNumber?_decimalDigits (n : Nat) : looseNumber? (decimalDigits n) = some n := by
  have hall : (decimalDigits n).all isDigit = true :=
    List.all_eq_true.2 fun c hc => isDigit_of_mem_decimalDigits hc
  have hzero : ∀ d r, decimalDigits n ≠ '0' :: d :: r := by
    intro d r hr
    by_cases hn : n = 0
    · subst hn
      cases hr
    · have hhead := head?_toDigits (b := 10) (by decide) hn
      rw [show Nat.toDigits 10 n = '0' :: d :: r from hr] at hhead
      exact hhead rfl
  unfold looseNumber?
  split
  · rename_i he
    exact absurd he Nat.toDigits_ne_nil
  · rename_i he
    exact absurd he (hzero _ _)
  · rename_i he
    exact absurd he (hzero _ _)
  · rename_i he
    exact absurd he (hzero _ _)
  · rw [hall, decimalValue_decimalDigits]
    rfl

theorem octets_eq (a : Address) (hf : a.family = .v4) : ∃ w x y z, a.octets = [w, x, y, z] ∧
    w < 256 ∧ x < 256 ∧ y < 256 ∧ z < 256 ∧ Address.spell 256 [w, x, y, z] = a.value := by
  have hfits : a.value < 256 ^ 4 := by
    have h := a.fits
    rw [hf] at h
    exact h
  have hlt : ∀ d ∈ a.octets, d < 256 := fun d hd => Address.lt_of_mem_digits (by decide) hd
  have hspell : Address.spell 256 a.octets = a.value := Address.spell_digits hfits
  obtain ⟨w, x, y, z, he⟩ : ∃ w x y z, a.octets = [w, x, y, z] := ⟨_, _, _, _, rfl⟩
  rw [he] at hlt hspell
  exact ⟨w, x, y, z, he, hlt w (by simp), hlt x (by simp), hlt y (by simp), hlt z (by simp), hspell⟩

theorem numberParts_writeV4 (a : Address) :
    numberParts a.writeV4 = a.octets.map decimalDigits := by
  have hpieces : pieces (· == '.') a.writeV4 = a.octets.map decimalDigits :=
    Address.writeV4_pieces a
  have hlast : (a.octets.map decimalDigits).getLast? ≠ some [] := by
    intro hl
    obtain ⟨n, -, hn⟩ := List.mem_map.1 (List.mem_of_getLast? hl)
    exact Nat.toDigits_ne_nil hn
  unfold numberParts
  simp only [hpieces, beq_eq_false_iff_ne.2 hlast, Bool.and_false, Bool.false_eq_true, if_false]

theorem endsInNumber_writeV4 (a : Address) : endsInNumber a.writeV4 = true := by
  have hlast : (numberParts a.writeV4).getLast? = some (decimalDigits (a.value % 256)) := by
    rw [numberParts_writeV4]
    rfl
  unfold endsInNumber
  rw [hlast]
  simp [looseNumber?_decimalDigits]

theorem looseAddress?_writeV4 {a : Address} (hf : a.family = .v4) :
    looseAddress? a.writeV4 = some a := by
  obtain ⟨w, x, y, z, ho, hw, hx, hy, hz, hspell⟩ := octets_eq a hf
  have hnumbers : (numberParts a.writeV4).mapM looseNumber? = some [w, x, y, z] := by
    rw [numberParts_writeV4, ho]
    exact mapM_map_eq_some fun n _ => looseNumber?_decimalDigits n
  have hlen : (numberParts a.writeV4).length = 4 := by
    rw [numberParts_writeV4, ho]
    rfl
  have hvalue : Address.spell 256 [w, x, y] * Nat.pow 256 1 + z = a.value := by
    simp only [Address.spell, List.foldl_cons, List.foldl_nil] at hspell ⊢
    norm_num at hspell ⊢
    omega
  unfold looseAddress?
  simp only [hlen, hnumbers, bind, Option.bind]
  have hfront : ([w, x, y].all (· < 256) && decide (z < Nat.pow 256 1)) = true := by
    simp [hw, hx, hy, hz]
  simp only [List.getLast?_cons_cons, List.getLast?_singleton, List.dropLast_cons_cons,
    List.dropLast_singleton, List.length_cons, List.length_nil]
  norm_num at hfront hvalue ⊢
  simp [hw, hx, hy, hz, hvalue, ← hf, Address.ofNat_value]

theorem head?_ne_bracket {cs : List Char} (h : ∀ c ∈ cs, isAllowed c = true) :
    cs.head? ≠ some '[' := by
  intro hc
  have hb := h '[' (List.mem_of_mem_head? hc)
  have hnot : isAllowed '[' = false := by decide
  rw [hnot] at hb
  cases hb

theorem decoded_of_allowed {cs : List Char} (h : ∀ c ∈ cs, isAllowed c = true) :
    ofOctets? (unescape (octetsOf cs)) = some cs := by
  apply unescape_of_plain
  intro hc
  have hp := h '%' hc
  have hnot : isAllowed '%' = false := by decide
  rw [hnot] at hp
  cases hp

theorem write_v4Host {a : Address} (hf : a.family = .v4) :
    (Host.address a).write = a.writeV4 := by
  simp [Host.write, hf]

theorem write_v6Host {a : Address} (hf : a.family = .v6) :
    (Host.address a).write = '[' :: Address.writeGroups a.groups ++ [']'] := by
  simp [Host.write, hf]

theorem namedHost?_write {host : Host} (h : host.Settled) : namedHost? host.write = .ok host := by
  cases host with
  | empty | plain => cases h
  | domain d =>
    have hall := isAllowed_of_toAscii? d.stable
    have hempty : d.chars.isEmpty = false := by simpa using h.1
    unfold namedHost?
    simp only [Host.write, head?_ne_bracket hall, if_false, decoded_of_allowed hall,
      Option.bind_eq_bind, Option.bind_some, d.stable, hempty, h.2, dite_true, Bool.false_eq_true]
  | address a =>
    cases hf : a.family with
    | v4 =>
      have hall := fun c hc => (writeV4_signs a c hc).1
      have hempty : a.writeV4.isEmpty = false := by
        cases he : a.writeV4 with
        | nil =>
          have hends := endsInNumber_writeV4 a
          rw [he] at hends
          cases hends
        | cons => rfl
      rw [write_v4Host hf]
      unfold namedHost?
      simp only [head?_ne_bracket hall, if_false, decoded_of_allowed hall, Option.bind_eq_bind,
        Option.bind_some, toAscii?_writeV4, hempty, endsInNumber_writeV4, if_true,
        looseAddress?_writeV4 hf, Bool.false_eq_true]
    | v6 =>
      have hread := Address.readV6?_writeGroups hf
      have hlast : ('[' :: Address.writeGroups a.groups ++ [']']).getLast? = some ']' :=
        List.getLast?_concat
      have hinner : ('[' :: Address.writeGroups a.groups ++ [']']).tail.dropLast =
          Address.writeGroups a.groups := List.dropLast_concat
      have hbracketed : bracketed? ('[' :: Address.writeGroups a.groups ++ [']']) =
          .ok (.address a) := by
        simp only [bracketed?, hlast, hinner, hread]
      have hhead : ('[' :: Address.writeGroups a.groups ++ [']']).head? = some '[' := rfl
      rw [write_v6Host hf, namedHost?, if_pos hhead, hbracketed]

theorem Host.Settled.write_cases {host : Host} (h : host.Settled) :
    (∀ c ∈ host.write, isAllowed c = true) ∨ ∃ groups : List Char,
      host.write = '[' :: groups ++ [']'] ∧ ∀ c ∈ groups, Address.isSign c = true := by
  cases host with
  | empty | plain => cases h
  | domain d => exact .inl fun c hc => isAllowed_of_toAscii? d.stable c hc
  | address a =>
    cases hf : a.family with
    | v4 => exact .inl fun c hc => (writeV4_signs a c (write_v4Host hf ▸ hc)).1
    | v6 => exact .inr ⟨_, write_v6Host hf,
        Address.isSign_of_readV6? (Address.readV6?_writeGroups hf)⟩

def isHostSign (c : Char) : Bool := isAllowed c || c == ':' || c == '[' || c == ']'

theorem isHostSign_of_isAllowed {c : Char} (h : isAllowed c = true) :
    isHostSign c = true ∧ c ≠ '[' ∧ c ≠ ']' ∧ c ≠ ':' := by
  have hne : ∀ d : Char, isAllowed d = false → c ≠ d := by
    rintro d hd rfl
    rw [h] at hd
    cases hd
  exact ⟨by simp [isHostSign, h], hne _ (by decide), hne _ (by decide), hne _ (by decide)⟩

theorem isBasic_of_isSign {c : Char} (h : Address.isSign c = true) :
    Punycode.isBasic c = true := by
  simp only [Address.isSign, Bool.or_eq_true, beq_iff_eq] at h
  rcases h with (h | rfl) | rfl
  · exact isBasic_of_isHexDigit h
  · decide
  · decide

theorem isHostSign_of_isSign {c : Char} (h : Address.isSign c = true) :
    isHostSign c = true ∧ c ≠ '[' ∧ c ≠ ']' :=
  forall_basic
    (P := fun c => Address.isSign c = true → isHostSign c = true ∧ c ≠ '[' ∧ c ≠ ']')
    (by decide) (isBasic_of_isSign h) h

theorem cutHost_append {inside : Bool} {cs : List Char} (rest : List Char)
    (h : ∀ c ∈ cs, c ≠ '[' ∧ c ≠ ']' ∧ (inside = false → c ≠ ':')) :
    cutHost inside (cs ++ rest) = (cs ++ (cutHost inside rest).1, (cutHost inside rest).2) := by
  induction cs with
  | nil => rfl
  | cons c r ih =>
    obtain ⟨hopen, hclose, hcolon⟩ := h c (by simp)
    have hr := ih fun x hx => h x (List.mem_cons_of_mem _ hx)
    have hstop : (c == ':' && !inside) = false := by
      cases inside with
      | false => simpa using hcolon rfl
      | true => simp
    rw [List.cons_append, cutHost, hstop]
    simp [hopen, hclose, hr]

theorem cutHost_write {host : Host} (h : host.Settled) {rest : List Char}
    (hrest : rest = [] ∨ rest.head? = some ':') :
    cutHost false (host.write ++ rest) = (host.write, rest) := by
  have hend : cutHost false rest = ([], rest) := by
    cases rest with
    | nil => rfl
    | cons c r =>
      have hc : c = ':' := by simpa using hrest
      rw [hc]
      rfl
  rcases h.write_cases with hall | ⟨groups, hw, hall⟩
  · rw [cutHost_append, hend, List.append_nil]
    intro c hc
    obtain ⟨-, hopen, hclose, hcolon⟩ := isHostSign_of_isAllowed (hall c hc)
    exact ⟨hopen, hclose, fun _ => hcolon⟩
  · have hsigns : ∀ c ∈ groups, c ≠ '[' ∧ c ≠ ']' ∧ (true = false → c ≠ ':') := by
      intro c hc
      obtain ⟨-, hopen, hclose⟩ := isHostSign_of_isSign (hall c hc)
      exact ⟨hopen, hclose, nofun⟩
    have hinside : cutHost true (groups ++ (']' :: rest)) = (groups ++ [']'], rest) := by
      have hclosed : cutHost true (']' :: rest) = ([']'], rest) := by
        rw [cutHost]
        simp [hend]
      rw [cutHost_append _ hsigns, hclosed]
    rw [hw, List.append_assoc, List.cons_append, List.singleton_append, cutHost]
    simp [hinside]

theorem write_signs {host : Host} (h : host.Settled) : ∀ c ∈ host.write, isHostSign c = true := by
  intro c hc
  rcases h.write_cases with hall | ⟨groups, hw, hall⟩
  · exact (isHostSign_of_isAllowed (hall c hc)).1
  · rw [hw, List.mem_append, List.mem_cons, List.mem_singleton] at hc
    rcases hc with (rfl | hc) | rfl
    · decide
    · exact (isHostSign_of_isSign (hall c hc)).1
    · decide

theorem write_ne_nil {host : Host} (h : host.Settled) : host.write ≠ [] := by
  intro he
  have hread := namedHost?_write h
  have hempty : namedHost? [] = .error .emptyHost := by decide +kernel
  rw [he, hempty] at hread
  cases hread

end RdapDirectory.Url
