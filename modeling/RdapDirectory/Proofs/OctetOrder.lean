import RdapDirectory.Proofs.Escapes

namespace RdapDirectory.Text

theorem utf8EncodeChar_lt {c d : Char} (h : c < d) (as bs : List UInt8) :
    String.utf8EncodeChar c ++ as < String.utf8EncodeChar d ++ bs := by
  have hlt : c.val.toNat < d.val.toNat := h
  have hd : d.val.toNat < 0x110000 := by
    rcases d.valid with hd | hd <;> have := hd <;> omega
  unfold String.utf8EncodeChar
  generalize c.val.toNat = m at *
  generalize d.val.toNat = n at *
  have hdiv : ∀ k : Nat, k / 4096 = k / 64 / 64 ∧ k / 262144 = k / 64 / 64 / 64 := by omega
  simp only [(hdiv m).1, (hdiv m).2, (hdiv n).1, (hdiv n).2]
  -- Longer codes start higher, and codes of one length are numbers in base 64.
  split_ifs <;>
    simp only [List.cons_append, List.nil_append, List.cons_lt_cons_iff, UInt8.lt_iff_toNat_lt,
      ← UInt8.toNat_inj, UInt8.toNat_ofNat'] <;>
    omega

theorem octetsOf_lt {cs ds : List Char} (h : cs < ds) : octetsOf cs < octetsOf ds := by
  induction cs generalizing ds with
  | nil =>
    cases ds with
    | nil => exact absurd h (List.lt_irrefl _)
    | cons d ds =>
      rw [octetsOf, octetsOf, List.flatMap_cons]
      obtain ⟨x, xs, hx⟩ := List.exists_cons_of_ne_nil (utf8EncodeChar_ne_nil d)
      rw [hx]
      exact List.nil_lt_cons ..
  | cons c cs ih =>
    cases ds with
    | nil => exact absurd h (List.not_lt_nil _)
    | cons d ds =>
      rw [octetsOf, octetsOf, List.flatMap_cons, List.flatMap_cons]
      rcases List.cons_lt_cons_iff.1 h with hlt | ⟨rfl, hlt⟩
      · exact utf8EncodeChar_lt hlt _ _
      · exact List.append_left_lt (ih hlt)

theorem octetsOf_lt_iff {s t : String} : octetsOf s.toList < octetsOf t.toList ↔ s < t := by
  rw [String.lt_iff_toList_lt]
  constructor
  · intro h
    rcases lt_trichotomy s t with hlt | rfl | hlt
    · exact String.lt_iff_toList_lt.1 hlt
    · exact absurd h (List.lt_irrefl _)
    · have hback := octetsOf_lt (String.lt_iff_toList_lt.1 hlt)
      exact absurd (List.lt_trans h hback) (List.lt_irrefl _)
  · exact octetsOf_lt

theorem octetsOf_le_iff {s t : String} : octetsOf s.toList ≤ octetsOf t.toList ↔ s ≤ t := by
  rw [← List.not_lt, octetsOf_lt_iff, not_lt]

end RdapDirectory.Text
