import RdapDirectory.Proofs.Paths
import RdapDirectory.Text.Blank
import RdapDirectory.Text.Numeral

namespace RdapDirectory.Text

theorem mem_toDigits {b n : Nat} (hb : 1 < b) {c : Char} (hc : c ∈ Nat.toDigits b n) :
    ∃ d < b, c = d.digitChar := by
  induction n using Nat.strongRecOn with
  | ind n ih =>
    rw [Nat.toDigits_eq_if hb] at hc
    by_cases hn : n < b
    · rw [if_pos hn, List.mem_singleton] at hc
      exact ⟨n, hn, hc⟩
    · rw [if_neg hn, List.mem_append, List.mem_singleton] at hc
      rcases hc with hc | hc
      · exact ih (n / b) (Nat.div_lt_self (by omega) hb) hc
      · exact ⟨n % b, Nat.mod_lt n (by omega), hc⟩

theorem foldl_toDigits {b : Nat} (hb : 1 < b) {value : Char → Nat}
    (hv : ∀ d < b, value d.digitChar = d) (n : Nat) :
    (Nat.toDigits b n).foldl (fun n c => b * n + value c) 0 = n := by
  induction n using Nat.strongRecOn with
  | ind n ih =>
    rw [Nat.toDigits_eq_if hb]
    by_cases hn : n < b
    · simp [hn, hv n hn]
    · have hrest := ih (n / b) (Nat.div_lt_self (by omega) hb)
      have hlast := hv (n % b) (Nat.mod_lt n (by omega))
      rw [if_neg hn, List.foldl_append, hrest, List.foldl_cons, List.foldl_nil, hlast]
      exact Nat.div_add_mod n b

theorem head?_toDigits {b n : Nat} (hb : 1 < b) (hn : n ≠ 0) :
    (Nat.toDigits b n).head? ≠ some '0' := by
  induction n using Nat.strongRecOn with
  | ind n ih =>
    rw [Nat.toDigits_eq_if hb]
    by_cases hlt : n < b
    · simpa [hlt] using hn
    · have hrest := ih (n / b) (Nat.div_lt_self (by omega) hb)
        (Nat.div_ne_zero_iff.2 ⟨by omega, by omega⟩)
      obtain ⟨c, cs, hcs⟩ := List.exists_cons_of_ne_nil (Nat.toDigits_ne_nil (n := n / b) (b := b))
      rw [hcs] at hrest
      simpa [hlt, hcs] using hrest

theorem isDigit_of_mem_decimalDigits {n : Nat} {c : Char} (hc : c ∈ decimalDigits n) :
    isDigit c = true := by
  obtain ⟨d, hd, rfl⟩ := mem_toDigits (by decide) hc
  have hall : ∀ d < 10, isDigit d.digitChar = true := by decide
  exact hall d hd

theorem decimalValue_decimalDigits (n : Nat) : decimalValue (decimalDigits n) = n := by
  apply foldl_toDigits (by decide)
  decide

theorem decimal?_decimalDigits (n : Nat) : decimal? (decimalDigits n) = some n := by
  have hne : decimalDigits n ≠ [] := Nat.toDigits_ne_nil
  have hall : (decimalDigits n).all isDigit = true :=
    List.all_eq_true.2 fun c hc => isDigit_of_mem_decimalDigits hc
  simp [decimal?, hne, hall, decimalValue_decimalDigits]

theorem isDigit_of_decimal? {cs : List Char} {n : Nat} (h : decimal? cs = some n) :
    ∀ c ∈ cs, isDigit c = true := by
  intro c hc
  unfold decimal? at h
  split at h
  · rename_i hall
    simp only [Bool.and_eq_true, List.all_eq_true] at hall
    exact hall.2 c hc
  · cases h

theorem mem_of_unsigned? {limit : Nat} {cs : List Char} {n : Nat}
    (h : unsigned? limit cs = some n) : ∀ c ∈ cs, c = '+' ∨ isDigit c = true := by
  obtain ⟨hn, -⟩ := Option.filter_eq_some_iff.1 h
  have hdigits := isDigit_of_decimal? hn
  intro c hc
  split at hdigits
  · rcases List.mem_cons.1 hc with rfl | hc
    · exact .inl rfl
    · exact .inr (hdigits c hc)
  · exact .inr (hdigits c hc)

theorem decimal?_eq_some {cs : List Char} {n : Nat} :
    decimal? cs = some n ↔ cs ≠ [] ∧ (∀ c ∈ cs, isDigit c = true) ∧ decimalValue cs = n := by
  simp [decimal?, and_assoc]

theorem not_isDigit_plus : isDigit '+' = false := by decide

theorem unsigned?_decimalDigits_eq (limit n : Nat) :
    unsigned? limit (decimalDigits n) = (some n).filter (· < limit) := by
  have hplus : ∀ r, decimalDigits n ≠ '+' :: r := by
    intro r hr
    have hd := isDigit_of_mem_decimalDigits (n := n) (c := '+') (by simp [hr])
    rw [not_isDigit_plus] at hd
    cases hd
  unfold unsigned?
  split
  rename_i r hr
  · exact absurd hr (hplus r)
  · exact congrArg (Option.filter (· < limit)) (decimal?_decimalDigits n)

theorem unsigned?_decimalDigits {limit n : Nat} (h : n < limit) :
    unsigned? limit (decimalDigits n) = some n := by
  rw [unsigned?_decimalDigits_eq]
  simp [h]

theorem isHexDigit_of_mem_hexadecimalDigits {n : Nat} {c : Char}
    (hc : c ∈ hexadecimalDigits n) : isHexDigit c = true := by
  obtain ⟨d, hd, rfl⟩ := mem_toDigits (by decide) hc
  have hall : ∀ d < 16, isHexDigit d.digitChar = true := by decide
  exact hall d hd

theorem hexadecimalValue_hexadecimalDigits (n : Nat) :
    hexadecimalValue (hexadecimalDigits n) = n := by
  apply foldl_toDigits (by decide)
  decide

theorem strip_of_free {p : Char → Bool} {cs : List Char} (h : ∀ c ∈ cs, p c = false) :
    strip p cs = cs := by
  have hkeep : ∀ ds : List Char, (∀ c ∈ ds, p c = false) → ds.dropWhile p = ds := by
    intro ds hds
    cases ds with
    | nil => rfl
    | cons d r =>
      rw [List.dropWhile_cons, hds d (by simp)]
      rfl
  have hback := hkeep cs.reverse fun c hc => h c (List.mem_reverse.1 hc)
  unfold strip
  rw [hkeep cs h, hback, List.reverse_reverse]

theorem mem_strip {p : Char → Bool} {cs : List Char} {c : Char} (hc : c ∈ cs) (hp : p c = false) :
    c ∈ strip p cs := by
  have hdrop : ∀ {ds : List Char}, c ∈ ds → c ∈ ds.dropWhile p := by
    intro ds hd
    rw [← List.takeWhile_append_dropWhile (p := p) (l := ds), List.mem_append] at hd
    rcases hd with hd | hd
    · rw [List.mem_takeWhile_imp hd] at hp
      cases hp
    · exact hd
  unfold strip
  rw [List.mem_reverse]
  exact hdrop (List.mem_reverse.2 (hdrop hc))

theorem cut?_append_cons {p : Char → Bool} {c : Char} (hc : p c = true) {as bs : List Char}
    (ha : ∀ x ∈ as, p x = false) : cut? p (as ++ c :: bs) = some (as, bs) := by
  induction as with
  | nil => simp [cut?, hc]
  | cons a r ih =>
    have hr := ih fun x hx => ha x (List.mem_cons_of_mem _ hx)
    simp [cut?, ha a (by simp), hr]

theorem cut?_eq_some_iff {c : Char} {cs as bs : List Char} :
    cut? (· == c) cs = some (as, bs) ↔ c ∉ as ∧ cs = as ++ c :: bs := by
  have hfree : (∀ x ∈ as, (x == c) = false) ↔ c ∉ as := by
    simp only [beq_eq_false_iff_ne]
    exact ⟨fun h hc => h c hc rfl, fun h x hx he => h (he ▸ hx)⟩
  rw [← hfree]
  constructor
  · intro h
    obtain ⟨d, hd, has, he⟩ := eq_of_cut?_eq_some h
    obtain rfl : d = c := by simpa using hd
    exact ⟨has, he⟩
  · rintro ⟨has, rfl⟩
    exact cut?_append_cons (by simp) has

theorem cut?_eq_none_iff {c : Char} {cs : List Char} : cut? (· == c) cs = none ↔ c ∉ cs := by
  rw [cut?_eq_none]
  simp only [beq_eq_false_iff_ne]
  exact ⟨fun h hc => h c hc rfl, fun h x hx he => h (he ▸ hx)⟩

theorem cutLast?_append_cons {p : Char → Bool} {c : Char} (hc : p c = true) {as bs : List Char}
    (hb : ∀ x ∈ bs, p x = false) : cutLast? p (as ++ c :: bs) = some (as, bs) := by
  have hcut : cut? p (bs.reverse ++ c :: as.reverse) = some (bs.reverse, as.reverse) :=
    cut?_append_cons hc fun x hx => hb x (List.mem_reverse.1 hx)
  have hreverse : (as ++ c :: bs).reverse = bs.reverse ++ c :: as.reverse := by simp
  rw [cutLast?, hreverse, hcut]
  simp

theorem cutLast?_of_free {p : Char → Bool} {cs : List Char} (h : ∀ c ∈ cs, p c = false) :
    cutLast? p cs = none := by
  have hcut : cut? p cs.reverse = none := cut?_eq_none.2 fun c hc => h c (List.mem_reverse.1 hc)
  rw [cutLast?, hcut]
  rfl

theorem exists_of_cutLast? {p : Char → Bool} {cs as bs : List Char}
    (h : cutLast? p cs = some (as, bs)) :
    ∃ c, p c = true ∧ (∀ x ∈ bs, p x = false) ∧ cs = as ++ c :: bs := by
  obtain ⟨⟨bs', as'⟩, hcut, he⟩ := Option.map_eq_some_iff.1 h
  obtain ⟨rfl, rfl⟩ := Prod.mk.inj he
  obtain ⟨c, hc, hfree, hcs⟩ := eq_of_cut?_eq_some hcut
  refine ⟨c, hc, ?_, ?_⟩
  · intro x hx
    exact hfree x (List.mem_reverse.1 hx)
  · rw [← cs.reverse_reverse, hcs]
    simp

theorem mem_or_sep_of_pieces {p : Char → Bool} {cs : List Char} {c : Char} (hc : c ∈ cs) :
    p c = true ∨ ∃ part ∈ pieces p cs, c ∈ part := by
  induction cs with
  | nil => cases hc
  | cons a r ih =>
    obtain ⟨x, xs, hx⟩ := List.exists_cons_of_ne_nil (pieces_ne_nil p r)
    by_cases ha : p a = true
    · rcases List.mem_cons.1 hc with rfl | hc
      · exact .inl ha
      · rcases ih hc with hp | ⟨part, hpart, hmem⟩
        · exact .inl hp
        · exact .inr ⟨part, by simp [pieces, ha, hpart], hmem⟩
    · have hcut : pieces p (a :: r) = (a :: x) :: xs := by simp [pieces, ha, hx]
      rw [hcut]
      rcases List.mem_cons.1 hc with rfl | hc
      · exact .inr ⟨c :: x, by simp, by simp⟩
      · rcases ih hc with hp | ⟨part, hpart, hmem⟩
        · exact .inl hp
        · rw [hx] at hpart
          rcases List.mem_cons.1 hpart with rfl | hpart
          · exact .inr ⟨a :: part, by simp, by simp [hmem]⟩
          · exact .inr ⟨part, by simp [hpart], hmem⟩

theorem intercalate_cons (sep : Char) (x y : List Char) (rest : List (List Char)) :
    List.intercalate [sep] (x :: y :: rest) = x ++ sep :: List.intercalate [sep] (y :: rest) := by
  rw [List.intercalate_cons_cons, List.append_assoc, List.singleton_append]

theorem pieces_intercalate {p : Char → Bool} {sep : Char} (hsep : p sep = true)
    {parts : List (List Char)} (hne : parts ≠ [])
    (hfree : ∀ part ∈ parts, ∀ c ∈ part, p c = false) :
    pieces p (List.intercalate [sep] parts) = parts := by
  induction parts with
  | nil => exact absurd rfl hne
  | cons x rest ih =>
    have hx := pieces_of_free (hfree x (by simp))
    cases rest with
    | nil => rwa [List.intercalate_singleton]
    | cons y rest =>
      have hrest := ih (by simp) fun part hpart => hfree part (List.mem_cons_of_mem _ hpart)
      rw [intercalate_cons, pieces_append_cons hsep, hx, hrest]
      rfl

theorem mem_intercalate {sep : Char} {parts : List (List Char)} {c : Char}
    (hc : c ∈ List.intercalate [sep] parts) : c = sep ∨ ∃ part ∈ parts, c ∈ part := by
  induction parts with
  | nil => simp [List.intercalate] at hc
  | cons x rest ih =>
    cases rest with
    | nil => exact .inr ⟨x, by simp, by rwa [List.intercalate_singleton] at hc⟩
    | cons y rest =>
      rw [intercalate_cons, List.mem_append, List.mem_cons] at hc
      rcases hc with hc | rfl | hc
      · exact .inr ⟨x, by simp, hc⟩
      · exact .inl rfl
      · rcases ih hc with rfl | ⟨part, hpart, hmem⟩
        · exact .inl rfl
        · exact .inr ⟨part, List.mem_cons_of_mem _ hpart, hmem⟩

theorem mapM_map_eq_some {α β : Type} {f : β → Option α} {g : α → β} {xs : List α}
    (h : ∀ x ∈ xs, f (g x) = some x) : (xs.map g).mapM f = some xs := by
  induction xs with
  | nil => rfl
  | cons x r ih =>
    have hr := ih fun y hy => h y (List.mem_cons_of_mem _ hy)
    simp [h x (by simp), hr]

theorem exists_of_mapM {α β : Type} {f : α → Option β} {xs : List α} {ys : List β}
    (h : xs.mapM f = some ys) {x : α} (hx : x ∈ xs) : ∃ y ∈ ys, f x = some y := by
  induction xs generalizing ys with
  | nil => cases hx
  | cons a r ih =>
    rw [List.mapM_cons] at h
    obtain ⟨y, hy, h⟩ := Option.bind_eq_some_iff.1 h
    obtain ⟨zs, hzs, h⟩ := Option.bind_eq_some_iff.1 h
    obtain rfl := Option.some.inj h
    rcases List.mem_cons.1 hx with rfl | hx
    · exact ⟨y, by simp, hy⟩
    · obtain ⟨z, hz, hf⟩ := ih hzs hx
      exact ⟨z, by simp [hz], hf⟩

theorem exists_of_mem_mapM {α β : Type} {f : α → Option β} {xs : List α} {ys : List β}
    (h : xs.mapM f = some ys) {y : β} (hy : y ∈ ys) : ∃ x ∈ xs, f x = some y := by
  induction xs generalizing ys with
  | nil =>
    cases h
    cases hy
  | cons a r ih =>
    rw [List.mapM_cons] at h
    obtain ⟨z, hz, h⟩ := Option.bind_eq_some_iff.1 h
    obtain ⟨zs, hzs, h⟩ := Option.bind_eq_some_iff.1 h
    obtain rfl := Option.some.inj h
    rcases List.mem_cons.1 hy with rfl | hy
    · exact ⟨a, by simp, hz⟩
    · obtain ⟨x, hx, hf⟩ := ih hzs hy
      exact ⟨x, by simp [hx], hf⟩

end RdapDirectory.Text
