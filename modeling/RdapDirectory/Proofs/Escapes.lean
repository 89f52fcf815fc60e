import Mathlib
import RdapDirectory.Text.Percent

namespace RdapDirectory.Text

theorem utf8EncodeChar_of_basic {c : Char} (h : c.toNat < 0x80) :
    String.utf8EncodeChar c = [.ofNat c.toNat] := by
  have hv : c.val.toNat ≤ 0x7f := by
    have hlt : c.val.toNat < 0x80 := h
    omega
  simp only [String.utf8EncodeChar, hv, if_true]
  rfl

theorem le_of_mem_utf8EncodeChar {c : Char} (h : 0x80 ≤ c.toNat) {b : UInt8}
    (hb : b ∈ String.utf8EncodeChar c) : 0x80 ≤ b.toNat := by
  have hv : ¬ c.val.toNat ≤ 0x7f := by
    have hle : 0x80 ≤ c.val.toNat := h
    omega
  unfold String.utf8EncodeChar at hb
  dsimp only at hb
  rw [if_neg hv] at hb
  split at hb
  · simp only [List.mem_cons, List.not_mem_nil, or_false] at hb
    rcases hb with rfl | rfl <;> rw [UInt8.toNat_ofNat'] <;> omega
  · split at hb
    · simp only [List.mem_cons, List.not_mem_nil, or_false] at hb
      rcases hb with rfl | rfl | rfl <;> rw [UInt8.toNat_ofNat'] <;> omega
    · simp only [List.mem_cons, List.not_mem_nil, or_false] at hb
      rcases hb with rfl | rfl | rfl | rfl <;> rw [UInt8.toNat_ofNat'] <;> omega

theorem toNat_eq_of_mem_utf8EncodeChar {c : Char} {b : UInt8} (hb : b ∈ String.utf8EncodeChar c)
    (hlt : b.toNat < 0x80) : c.toNat = b.toNat := by
  by_cases hc : c.toNat < 0x80
  · rw [utf8EncodeChar_of_basic hc, List.mem_singleton] at hb
    rw [hb, UInt8.toNat_ofNat', Nat.mod_eq_of_lt (by omega)]
  · have hle := le_of_mem_utf8EncodeChar (by omega) hb
    omega

theorem utf8EncodeChar_ne_nil (c : Char) : String.utf8EncodeChar c ≠ [] := by
  intro h
  have hlen := String.length_utf8EncodeChar c
  have hpos := Char.utf8Size_pos c
  rw [h, List.length_nil] at hlen
  omega

theorem ofOctets?_octetsOf (cs : List Char) : ofOctets? (octetsOf cs) = some cs := by
  have harray : (⟨(octetsOf cs).toArray⟩ : ByteArray) = (String.ofList cs).toByteArray := by
    rw [String.toByteArray_ofList]
    exact ByteArray.ext (List.data_toByteArray ..).symm
  have hvalid : (String.ofList cs).toByteArray.IsValidUTF8 := (String.ofList cs).isValidUTF8
  rw [ofOctets?, harray, String.fromUTF8?, dif_pos hvalid]
  exact congrArg some String.toList_ofList

theorem octetsOf_injective {cs ds : List Char} (h : octetsOf cs = octetsOf ds) : cs = ds := by
  have hc := ofOctets?_octetsOf cs
  rw [h, ofOctets?_octetsOf] at hc
  exact (Option.some.inj hc).symm

theorem octetsOf_append (cs ds : List Char) :
    octetsOf (cs ++ ds) = octetsOf cs ++ octetsOf ds :=
  List.flatMap_append

theorem octetsOf_of_basic {cs : List Char} (h : ∀ c ∈ cs, c.toNat < 0x80) :
    octetsOf cs = cs.map fun c => .ofNat c.toNat := by
  induction cs with
  | nil => rfl
  | cons c r ih =>
    have hr := ih fun x hx => h x (List.mem_cons_of_mem _ hx)
    rw [octetsOf, List.flatMap_cons, utf8EncodeChar_of_basic (h c (by simp))]
    rw [octetsOf] at hr
    rw [hr]
    rfl

def escapeSigns : List Char := "%0123456789ABCDEF".toList

theorem hexCapital_mem {n : Nat} (hn : n < 16) : hexCapital n ∈ escapeSigns := by
  have hall : ∀ n < 16, hexCapital n ∈ escapeSigns := by decide
  exact hall n hn

theorem mem_escapeOctet {b : UInt8} {c : Char} (hc : c ∈ escapeOctet b) : c ∈ escapeSigns := by
  have hb := b.toNat_lt
  simp only [escapeOctet, List.mem_cons, List.not_mem_nil, or_false] at hc
  rcases hc with rfl | rfl | rfl
  · decide
  · exact hexCapital_mem (by omega)
  · exact hexCapital_mem (by omega)

theorem escape_append (keep : Char → Bool) (cs ds : List Char) :
    escape keep (cs ++ ds) = escape keep cs ++ escape keep ds :=
  List.flatMap_append

theorem escape_cons (keep : Char → Bool) (c : Char) (cs : List Char) :
    escape keep (c :: cs) = (if keep c then [c] else escapeChar c) ++ escape keep cs :=
  List.flatMap_cons

variable {keep : Char → Bool}

theorem escape_of_kept {cs : List Char} (h : ∀ c ∈ cs, keep c = true) : escape keep cs = cs := by
  induction cs with
  | nil => rfl
  | cons c r ih =>
    rw [escape_cons, ih fun x hx => h x (List.mem_cons_of_mem _ hx), h c (by simp)]
    rfl

theorem mem_escape {cs : List Char} {c : Char} (hc : c ∈ escape keep cs) :
    keep c = true ∧ c ∈ cs ∨ c ∈ escapeSigns := by
  obtain ⟨x, hx, hc⟩ := List.mem_flatMap.1 hc
  split at hc
  · rename_i hkeep
    obtain rfl := List.mem_singleton.1 hc
    exact .inl ⟨hkeep, hx⟩
  · obtain ⟨b, -, hc⟩ := List.mem_flatMap.1 hc
    exact .inr (mem_escapeOctet hc)

theorem forall_mem_escape {p : Char → Bool} {cs : List Char}
    (hk : ∀ c ∈ cs, keep c = true → p c = true) (hs : escapeSigns.all p = true) :
    ∀ c ∈ escape keep cs, p c = true := by
  intro c hc
  rcases mem_escape hc with ⟨hkeep, hmem⟩ | hsign
  · exact hk c hmem hkeep
  · exact List.all_eq_true.1 hs c hsign

theorem hexOctet?_hexCapital {n : Nat} (hn : n < 16) :
    hexOctet? (.ofNat (hexCapital n).toNat) = some n := by
  have hall : ∀ n < 16, hexOctet? (.ofNat (hexCapital n).toNat) = some n := by decide
  exact hall n hn

theorem unescape_escapeOctet (b : UInt8) (rest : List UInt8) :
    unescape (octetsOf (escapeOctet b) ++ rest) = b :: unescape rest := by
  have hb := b.toNat_lt
  have hbasic : ∀ c ∈ escapeOctet b, c.toNat < 0x80 := by
    intro c hc
    have hall : escapeSigns.all (·.toNat < 0x80) = true := by decide
    exact of_decide_eq_true (List.all_eq_true.1 hall c (mem_escapeOctet hc))
  have hhigh := hexOctet?_hexCapital (n := b.toNat / 16) (by omega)
  have hlow := hexOctet?_hexCapital (n := b.toNat % 16) (by omega)
  have hvalue : UInt8.ofNat (16 * (b.toNat / 16) + b.toNat % 16) = b := by
    rw [Nat.div_add_mod, UInt8.ofNat_toNat]
  have hsign : (UInt8.ofNat '%'.toNat == 0x25) = true := by decide
  rw [octetsOf_of_basic hbasic]
  simp only [escapeOctet, List.map_cons, List.map_nil, List.cons_append, List.nil_append, unescape,
    hsign, hhigh, hlow, hvalue]

theorem unescape_cons {b : UInt8} (hb : b ≠ 0x25) (rest : List UInt8) :
    unescape (b :: rest) = b :: unescape rest := by
  match rest with
  | [] => rfl
  | [_] => rfl
  | x :: y :: r =>
    have hne : (b == 0x25) = false := by simpa using hb
    simp only [unescape, hne]

theorem unescape_append {bs : List UInt8} (h : 0x25 ∉ bs) (rest : List UInt8) :
    unescape (bs ++ rest) = bs ++ unescape rest := by
  induction bs with
  | nil => rfl
  | cons b r ih =>
    rw [List.mem_cons, not_or] at h
    rw [List.cons_append, unescape_cons (Ne.symm h.1), ih h.2, List.cons_append]

theorem unescape_escapeChar (c : Char) (rest : List UInt8) :
    unescape (octetsOf (escapeChar c) ++ rest) = String.utf8EncodeChar c ++ unescape rest := by
  unfold escapeChar
  induction String.utf8EncodeChar c with
  | nil => rfl
  | cons b r ih =>
    rw [List.flatMap_cons, octetsOf_append, List.append_assoc, unescape_escapeOctet, ih,
      List.cons_append]

theorem percent_not_mem {c : Char} (h : c ≠ '%') : 0x25 ∉ String.utf8EncodeChar c := by
  intro hb
  have hc := toNat_eq_of_mem_utf8EncodeChar hb (by decide)
  exact h (Char.toNat_inj.1 hc)

theorem unescape_escape (h : keep '%' = false) (cs : List Char) :
    unescape (octetsOf (escape keep cs)) = octetsOf cs := by
  induction cs with
  | nil => rfl
  | cons c r ih =>
    have hoctets : octetsOf (c :: r) = String.utf8EncodeChar c ++ octetsOf r := List.flatMap_cons
    rw [escape_cons, octetsOf_append, hoctets]
    by_cases hc : keep c = true
    · have hne : c ≠ '%' := by
        rintro rfl
        rw [h] at hc
        cases hc
      have hone : octetsOf [c] = String.utf8EncodeChar c := by simp [octetsOf]
      rw [if_pos hc, hone, unescape_append (percent_not_mem hne), ih]
    · rw [if_neg hc, unescape_escapeChar, ih]

theorem escape_injective (h : keep '%' = false) {cs ds : List Char}
    (he : escape keep cs = escape keep ds) : cs = ds := by
  apply octetsOf_injective
  rw [← unescape_escape h cs, he, unescape_escape h]

theorem unescape_of_plain {cs : List Char} (h : '%' ∉ cs) :
    ofOctets? (unescape (octetsOf cs)) = some cs := by
  have hall : 0x25 ∉ octetsOf cs := by
    intro hb
    obtain ⟨c, hc, hb⟩ := List.mem_flatMap.1 hb
    exact percent_not_mem (fun he => h (he ▸ hc)) hb
  have hsame := unescape_append hall []
  rw [List.append_nil] at hsame
  rw [hsame]
  simpa [unescape] using ofOctets?_octetsOf cs

end RdapDirectory.Text
