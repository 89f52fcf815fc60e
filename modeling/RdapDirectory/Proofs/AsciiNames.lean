import Mathlib
import RdapDirectory.Idna.Ascii
import RdapDirectory.Proofs.Numerals

namespace RdapDirectory.Idna

open Text

def isAllowed (c : Char) : Bool := Punycode.isBasic c && !isDenied c

theorem forall_basic {P : Char → Prop} (h : ∀ n < 128, P (.ofNat n)) {c : Char}
    (hc : Punycode.isBasic c = true) : P c := by
  have hp := h c.toNat (of_decide_eq_true hc)
  rwa [Char.ofNat_toNat] at hp

theorem isAllowed_toLower {c : Char} (h : isAllowed c = true) : isAllowed c.toLower = true := by
  have hbasic : Punycode.isBasic c = true := (Bool.and_eq_true_iff.1 h).1
  exact forall_basic (P := fun c => isAllowed c = true → isAllowed c.toLower = true)
    (by decide) hbasic h

namespace Punycode

theorem isAllowed_digit {n : Nat} (hn : n < 36) : isAllowed (digit n) = true := by
  have hall : ∀ n < 36, isAllowed (digit n) = true := by decide
  exact hall n hn

theorem isBasic_of_le {c d : Char} (h : c ≤ d) (hd : isBasic d = true) : isBasic c = true := by
  have hnat : c.toNat ≤ d.toNat := h
  have hlt : d.toNat < 0x80 := of_decide_eq_true hd
  exact decide_eq_true (by omega)

theorem isBasic_of_value? {c : Char} {n : Nat} (h : value? c = some n) : isBasic c = true := by
  unfold value? at h
  split at h
  · rename_i hc
    exact isBasic_of_le (of_decide_eq_true (Bool.and_eq_true_iff.1 hc).2) (by decide)
  · split at h
    · rename_i hc
      exact isBasic_of_le (of_decide_eq_true (Bool.and_eq_true_iff.1 hc).2) (by decide)
    · split at h
      · rename_i hc
        exact isBasic_of_le (of_decide_eq_true (Bool.and_eq_true_iff.1 hc).2) (by decide)
      · cases h

theorem isAllowed_of_value? {c : Char} {n : Nat} (h : value? c = some n) :
    isAllowed c = true := by
  have hsome : (value? c).isSome = true := by rw [h]; rfl
  exact forall_basic (P := fun c => (value? c).isSome = true → isAllowed c = true)
    (by decide) (isBasic_of_value? h) hsome

theorem isAllowed_of_mem_number {place bias n : Nat} {c : Char} (hc : c ∈ number place bias n) :
    isAllowed c = true := by
  fun_induction number place bias n with
  | case1 place n t hlt =>
    rw [List.mem_singleton] at hc
    have ht := threshold_bounds place bias
    exact hc ▸ isAllowed_digit (by omega)
  | case2 place n t hlt ih =>
    have ht := threshold_bounds place bias
    rcases List.mem_cons.1 hc with rfl | hc
    · have hmod := Nat.mod_lt (n - t) (show 0 < 36 - t by omega)
      exact isAllowed_digit (by omega)
    · exact ih hc

theorem pass_allowed {s : Spelling} (h : ∀ c ∈ s.digits, isAllowed c = true) (point : Nat)
    (c : Char) : ∀ x ∈ (s.pass point c).digits, isAllowed x = true := by
  unfold Spelling.pass
  split
  · exact h
  · split
    · intro x hx
      rcases List.mem_append.1 hx with hx | hx
      · exact h x hx
      · exact isAllowed_of_mem_number hx
    · exact h

theorem foldl_pass_allowed {s : Spelling} (h : ∀ c ∈ s.digits, isAllowed c = true) (point : Nat)
    (cs : List Char) : ∀ x ∈ (cs.foldl (Spelling.pass point) s).digits, isAllowed x = true := by
  induction cs generalizing s with
  | nil => exact h
  | cons c r ih => exact ih (pass_allowed h point c)

theorem points_allowed {s : Spelling} (h : ∀ c ∈ s.digits, isAllowed c = true) (cs : List Char)
    (next : Nat) (ps : List Nat) : ∀ x ∈ (s.points cs next ps).digits, isAllowed x = true := by
  induction ps generalizing s next with
  | nil => exact h
  | cons p ps ih =>
    apply ih
    exact foldl_pass_allowed (s := { s with delta := s.delta + (p - next) * (s.done + 1) }) h p cs

theorem mem_encode {cs : List Char} {c : Char} (hc : c ∈ encode cs) :
    isAllowed c = true ∨ c ∈ cs ∧ isBasic c = true := by
  unfold encode at hc
  rcases List.mem_append.1 hc with hc | hc
  · split at hc
    · cases hc
    · rcases List.mem_append.1 hc with hc | hc
      · exact .inr (List.mem_filter.1 hc)
      · rw [List.mem_singleton] at hc
        subst hc
        exact .inl (by decide)
  · left
    apply points_allowed _ _ _ _ c hc
    intro x hx
    cases hx

theorem number?_used {bias place weight sum : Nat} {cs rest : List Char} {n : Nat}
    (h : number? bias place weight sum cs = some (n, rest)) :
    ∃ used, cs = used ++ rest ∧ ∀ c ∈ used, isAllowed c = true := by
  induction cs generalizing place weight sum with
  | nil => cases h
  | cons c r ih =>
    obtain ⟨d, hd, h⟩ := Option.bind_eq_some_iff.1 h
    have hc := isAllowed_of_value? hd
    dsimp only at h
    split at h
    · cases h
      exact ⟨[c], rfl, fun x hx => List.mem_singleton.1 hx ▸ hc⟩
    · obtain ⟨used, rfl, hused⟩ := ih h
      refine ⟨c :: used, rfl, fun x hx => ?_⟩
      rcases List.mem_cons.1 hx with rfl | hx
      · exact hc
      · exact hused x hx

theorem insertions?_spec {point place bias : Nat} {first : Bool} {cs out digits : List Char}
    {fuel : Nat} (h : insertions? point place bias first cs fuel digits = some out) :
    (∀ c ∈ cs, c ∈ out) ∧ ∀ c ∈ digits, isAllowed c = true := by
  induction fuel generalizing point place bias first cs digits with
  | zero =>
    cases digits with
    | nil =>
      cases h
      exact ⟨fun _ hc => hc, by simp⟩
    | cons c r => cases h
  | succ fuel ih =>
    cases digits with
    | nil =>
      cases h
      exact ⟨fun _ hc => hc, by simp⟩
    | cons c r =>
      obtain ⟨⟨n, rest⟩, hn, h⟩ := Option.bind_eq_some_iff.1 h
      obtain ⟨used, hused, hallowed⟩ := number?_used hn
      dsimp only at h
      split at h
      · obtain ⟨hkept, hrest⟩ := ih h
        constructor
        · intro x hx
          apply hkept
          have hplace : (place + n) % (cs.length + 1) ≤ cs.length :=
            Nat.le_of_lt_succ (Nat.mod_lt _ (Nat.succ_pos _))
          exact (List.mem_insertIdx hplace).2 (.inr hx)
        · intro x hx
          rw [hused, List.mem_append] at hx
          rcases hx with hx | hx
          · exact hallowed x hx
          · exact hrest x hx
      · cases h

theorem mem_parts {cs : List Char} {c : Char} (hc : c ∈ cs) :
    c ∈ (parts cs).1 ∨ c = '-' ∨ c ∈ (parts cs).2 := by
  unfold parts
  split
  · exact .inr (.inr hc)
  · exact .inr (.inr hc)
  · rename_i basic digits hcut
    obtain ⟨sep, hsep, -, rfl⟩ := exists_of_cutLast? hcut
    obtain rfl := eq_of_beq hsep
    simpa using hc

theorem mem_of_decode? {cs out : List Char} (h : decode? cs = some out) {c : Char} (hc : c ∈ cs) :
    c ∈ out ∨ isAllowed c = true := by
  obtain ⟨hkept, hdigits⟩ := insertions?_spec h
  rcases mem_parts hc with hc | rfl | hc
  · exact .inl (hkept c hc)
  · exact .inr (by decide)
  · exact .inr (hdigits c hc)

end Punycode

theorem isAllowed_of_isSound {cs : List Char} (h : isSound cs = true) {c : Char} (hc : c ∈ cs)
    (hb : Punycode.isBasic c = true) : isAllowed c = true := by
  have hdenied : cs.any isDenied = false := by
    simpa using (Bool.and_eq_true_iff.1 h).2
  have hnot := List.any_eq_false.1 hdenied c hc
  simp [isAllowed, hb, hnot]

theorem spelt?_cases {label spelt : List Char} (h : spelt? label = some spelt) :
    spelt = label ∨ label.all Punycode.isBasic = true ∧
      ∃ r, label = "xn--".toList ++ r ∧ Punycode.decode? r = some spelt := by
  unfold spelt? at h
  split at h
  · rename_i r
    split at h
    · rename_i hbasic
      obtain ⟨cs, hdecode, h⟩ := Option.bind_eq_some_iff.1 h
      split at h
      · cases h
        exact .inr ⟨(Bool.and_eq_true_iff.1 hbasic).1, r, rfl, hdecode⟩
      · cases h
    · cases h
  · exact .inl (Option.some.inj h).symm

theorem isAllowed_prefix : ∀ c ∈ "xn--".toList, isAllowed c = true := by
  have hall : "xn--".toList.all isAllowed = true := by decide
  exact List.all_eq_true.1 hall

theorem isAllowed_of_ascii? {label spelt out : List Char} (hs : spelt? label = some spelt)
    (hsound : isSound spelt = true) (ha : ascii? label = some out) {c : Char} (hc : c ∈ out) :
    isAllowed c = true := by
  unfold ascii? at ha
  split at ha
  · rename_i hbasic
    cases ha
    have hb : Punycode.isBasic c = true := List.all_eq_true.1 hbasic c hc
    rcases spelt?_cases hs with rfl | ⟨-, r, rfl, hdecode⟩
    · exact isAllowed_of_isSound hsound hc hb
    · rcases List.mem_append.1 hc with hc | hc
      · exact isAllowed_prefix c hc
      · rcases Punycode.mem_of_decode? hdecode hc with hc | hc
        · exact isAllowed_of_isSound hsound hc hb
        · exact hc
  · rename_i hbasic
    split at ha
    · cases ha
      have hspelt : spelt = label := (spelt?_cases hs).resolve_right fun h => hbasic h.1
      subst hspelt
      rcases List.mem_append.1 hc with hc | hc
      · exact isAllowed_prefix c hc
      · rcases Punycode.mem_encode hc with hc | ⟨hc, hb⟩
        · exact hc
        · exact isAllowed_of_isSound hsound hc hb
    · cases ha

theorem isAllowed_of_toAscii? {cs out : List Char} (h : toAscii? cs = some out) :
    ∀ c ∈ out, isAllowed c = true := by
  intro c hc
  unfold toAscii? at h
  split at h
  · rename_i hplain
    split at h
    · cases h
    · rename_i hdenied
      cases h
      obtain ⟨x, hx, rfl⟩ := List.mem_map.1 hc
      have hb := List.all_eq_true.1 (Bool.and_eq_true_iff.1 hplain).1 x hx
      have hnot := List.any_eq_false.1 (Bool.eq_false_of_not_eq_true hdenied) x hx
      exact isAllowed_toLower (by simp [isAllowed, hb, hnot])
  · obtain ⟨m, -, h⟩ := Option.bind_eq_some_iff.1 h
    obtain ⟨spelt, hspelt, h⟩ := Option.bind_eq_some_iff.1 h
    dsimp only at h
    split at h
    · rename_i hall
      obtain ⟨labels, hlabels, h⟩ := Option.bind_eq_some_iff.1 h
      obtain rfl := Option.some.inj h
      rcases mem_intercalate hc with rfl | ⟨part, hpart, hmem⟩
      · decide
      · obtain ⟨label, hlabel, ha⟩ := exists_of_mem_mapM hlabels hpart
        obtain ⟨s, hs, hspelt⟩ := exists_of_mapM hspelt hlabel
        have hsound := List.all_eq_true.1 hall s hs
        exact isAllowed_of_ascii? hspelt (Bool.and_eq_true_iff.1 hsound).1 ha hmem
    · cases h

theorem isBasic_of_isDigit {c : Char} (h : isDigit c = true) : Punycode.isBasic c = true :=
  Punycode.isBasic_of_le (of_decide_eq_true (Bool.and_eq_true_iff.1 h).2) (by decide)

theorem isDigit_facts {c : Char} (h : isDigit c = true) :
    isAllowed c = true ∧ c.toLower = c ∧ c ≠ 'x' :=
  forall_basic
    (P := fun c => isDigit c = true → isAllowed c = true ∧ c.toLower = c ∧ c ≠ 'x')
    (by decide) (isBasic_of_isDigit h) h

theorem map_toLower_of_digits {cs : List Char} (h : ∀ c ∈ cs, isDigit c = true) :
    cs.map Char.toLower = cs := by
  have hsame : cs.map Char.toLower = cs.map id :=
    List.map_congr_left fun c hc => (isDigit_facts (h c hc)).2.1
  rw [hsame, List.map_id]

theorem toLower_of_not_basic {c : Char} (h : Punycode.isBasic c = false) : c.toLower = c := by
  have hhigh : 0x80 ≤ c.val.toNat := by simpa [Punycode.isBasic] using h
  unfold Char.toLower
  apply dif_neg
  rintro ⟨-, hle⟩
  have hlow : c.val.toNat ≤ 90 := hle
  omega

theorem forall_toLower {P : Char → Char → Prop}
    (hbasic : ∀ n < 128, P (.ofNat n) (Char.ofNat n).toLower)
    (hother : ∀ c, Punycode.isBasic c = false → P c c) (c : Char) : P c c.toLower := by
  cases hc : Punycode.isBasic c with
  | true => exact forall_basic (P := fun c => P c c.toLower) hbasic hc
  | false =>
    rw [toLower_of_not_basic hc]
    exact hother c hc

end RdapDirectory.Idna
