import RdapDirectory.Proofs.Numerals
import RdapDirectory.Ip.Network

namespace RdapDirectory.Ip

open Text

theorem octet?_decimalDigits {n : Nat} (hn : n < 256) : octet? (decimalDigits n) = some n := by
  have hlen : (decimalDigits n).length ≤ 3 := by
    apply (Nat.length_toDigits_le_iff (by decide) (by decide)).2
    omega
  have hzero : (decimalDigits n).length ≤ 1 ∨ (decimalDigits n).head? ≠ some '0' := by
    by_cases h : n = 0
    · subst h
      exact .inl (by decide)
    · exact .inr (head?_toDigits (by decide) h)
  rcases hzero with h | h <;> simp [octet?, hlen, h, decimal?_decimalDigits, hn]

theorem isDigit_of_octet? {cs : List Char} {n : Nat} (h : octet? cs = some n) :
    ∀ c ∈ cs, isDigit c = true := by
  unfold octet? at h
  split at h
  · exact isDigit_of_decimal? (Option.filter_eq_some_iff.1 h).1
  · cases h

theorem group?_hexadecimalDigits {g : Nat} (hg : g < 65536) :
    group? (hexadecimalDigits g) = some g := by
  have hne : hexadecimalDigits g ≠ [] := Nat.toDigits_ne_nil
  have hlen : (hexadecimalDigits g).length ≤ 4 := by
    apply (Nat.length_toDigits_le_iff (by decide) (by decide)).2
    omega
  have hall : (hexadecimalDigits g).all isHexDigit = true :=
    List.all_eq_true.2 fun c hc => isHexDigit_of_mem_hexadecimalDigits hc
  simp [group?, hne, hlen, hall, hexadecimalValue_hexadecimalDigits]

theorem isHexDigit_of_group? {cs : List Char} {n : Nat} (h : group? cs = some n) :
    ∀ c ∈ cs, isHexDigit c = true := by
  unfold group? at h
  split at h
  · rename_i hall
    simp only [Bool.and_eq_true, List.all_eq_true] at hall
    exact hall.2
  · cases h

namespace Address

theorem length_digits (base count n : Nat) : (digits base count n).length = count := by
  induction count generalizing n with
  | zero => rfl
  | succ count ih => simp [digits, ih]

theorem lt_of_mem_digits {base count n d : Nat} (hb : 0 < base) (hd : d ∈ digits base count n) :
    d < base := by
  induction count generalizing n with
  | zero => cases hd
  | succ count ih =>
    rw [digits, List.mem_append, List.mem_singleton] at hd
    rcases hd with hd | rfl
    · exact ih hd
    · exact Nat.mod_lt n hb

theorem spell_append (base : Nat) (xs ys : List Nat) :
    spell base (xs ++ ys) = ys.foldl (fun n d => base * n + d) (spell base xs) :=
  List.foldl_append

theorem spell_digits {base count n : Nat} (hn : n < base ^ count) :
    spell base (digits base count n) = n := by
  induction count generalizing n with
  | zero =>
    have hzero : n = 0 := by simpa using hn
    subst hzero
    rfl
  | succ count ih =>
    have hrest : n / base < base ^ count := by
      apply Nat.div_lt_of_lt_mul
      rwa [Nat.pow_succ, Nat.mul_comm] at hn
    rw [digits, spell_append, ih hrest]
    exact Nat.div_add_mod n base

theorem writeV4_pieces (a : Address) :
    pieces (· == '.') a.writeV4 = a.octets.map decimalDigits := by
  apply pieces_intercalate (by rfl)
  · simp [octets, digits]
  · intro part hpart c hc
    obtain ⟨n, -, rfl⟩ := List.mem_map.1 hpart
    have hd := isDigit_of_mem_decimalDigits hc
    have hdot : isDigit '.' = false := by decide
    by_contra hne
    simp only [beq_iff_eq, Bool.not_eq_false] at hne
    rw [hne, hdot] at hd
    cases hd

theorem octets?_writeV4 (a : Address) : octets? a.writeV4 = some a.octets := by
  have hall : ∀ n ∈ a.octets, octet? (decimalDigits n) = some n := fun n hn =>
    octet?_decimalDigits (lt_of_mem_digits (by decide) hn)
  unfold octets?
  rw [writeV4_pieces, mapM_map_eq_some hall]
  rfl

theorem readV4?_writeV4 {a : Address} (hf : a.family = .v4) : readV4? a.writeV4 = some a := by
  have hfits : a.value < 256 ^ 4 := by
    have h := a.fits
    rw [hf] at h
    exact h
  have hvalue : spell 256 a.octets = a.value := spell_digits hfits
  rw [readV4?, octets?_writeV4, Option.map_some, hvalue, ← hf, ofNat_value]

theorem colonJoined_cons_cons (g h : Nat) (gs : List Nat) :
    colonJoined (g :: h :: gs) = hexadecimalDigits g ++ ':' :: colonJoined (h :: gs) :=
  intercalate_cons ':' _ _ _

theorem not_isHexDigit_colon : isHexDigit ':' = false := by decide

theorem colon_not_mem_hexadecimalDigits (g : Nat) : ':' ∉ hexadecimalDigits g := by
  intro hc
  have hd := isHexDigit_of_mem_hexadecimalDigits hc
  rw [not_isHexDigit_colon] at hd
  cases hd

theorem head?_colonJoined (g : Nat) (gs : List Nat) (rest : List Char) :
    (colonJoined (g :: gs) ++ rest).head? ≠ some ':' := by
  obtain ⟨c, cs, hcs⟩ := List.exists_cons_of_ne_nil (Nat.toDigits_ne_nil (n := g) (b := 16))
  have hc : c ≠ ':' := by
    rintro rfl
    exact colon_not_mem_hexadecimalDigits g (by simp [hexadecimalDigits, hcs])
  have hdigits : hexadecimalDigits g = c :: cs := hcs
  cases gs with
  | nil => simpa [colonJoined, List.intercalate, hdigits] using hc
  | cons h gs => simpa [colonJoined_cons_cons, hdigits] using hc

theorem cutGap?_append_of_free {cs rest : List Char} (h : ':' ∉ cs) :
    cutGap? (cs ++ rest) = (cutGap? rest).map fun x => (cs ++ x.1, x.2) := by
  induction cs with
  | nil => simp
  | cons c cs ih =>
    rw [List.mem_cons, not_or] at h
    have hc : c ≠ ':' := fun he => h.1 he.symm
    rw [List.cons_append, cutGap?, ih h.2]
    · cases cutGap? rest <;> rfl
    · intro r he
      exact absurd he hc

theorem cutGap?_colon {rest : List Char} (h : rest.head? ≠ some ':') :
    cutGap? (':' :: rest) = (cutGap? rest).map fun x => (':' :: x.1, x.2) := by
  rw [cutGap?]
  intro r _ he
  rw [he] at h
  exact h rfl

theorem cutGap?_colonJoined_append (gs : List Nat) (rest : List Char) :
    cutGap? (colonJoined gs ++ rest) =
      (cutGap? rest).map fun x => (colonJoined gs ++ x.1, x.2) := by
  induction gs with
  | nil => cases h : cutGap? rest <;> simp [colonJoined, List.intercalate, h]
  | cons g gs ih =>
    have hfree := colon_not_mem_hexadecimalDigits g
    cases gs with
    | nil => simpa [colonJoined, List.intercalate] using cutGap?_append_of_free hfree
    | cons h gs =>
      rw [colonJoined_cons_cons, List.append_assoc, cutGap?_append_of_free hfree,
        List.cons_append, cutGap?_colon (head?_colonJoined h gs rest), ih]
      cases cutGap? rest <;> simp

theorem pieces_colonJoined {gs : List Nat} (hne : gs ≠ []) :
    pieces (· == ':') (colonJoined gs) = gs.map hexadecimalDigits := by
  apply pieces_intercalate (by rfl)
  · simpa using hne
  · intro part hpart c hc
    obtain ⟨g, -, rfl⟩ := List.mem_map.1 hpart
    have hcolon : c ≠ ':' := by
      rintro rfl
      exact colon_not_mem_hexadecimalDigits g hc
    simpa using hcolon

theorem groupsOf?_map {gs : List Nat} (h : ∀ g ∈ gs, g < 65536) :
    groupsOf? (gs.map hexadecimalDigits) = some gs := by
  induction gs with
  | nil => rfl
  | cons g gs ih =>
    have hg := group?_hexadecimalDigits (h g (by simp))
    have hgs := ih fun x hx => h x (List.mem_cons_of_mem _ hx)
    cases gs with
    | nil => simp [groupsOf?, hg]
    | cons g' gs =>
      rw [List.map_cons, groupsOf?, hg, hgs]
      · rfl
      · simp

theorem colonJoined_eq_nil {gs : List Nat} : colonJoined gs = [] ↔ gs = [] := by
  cases gs with
  | nil => simp [colonJoined, List.intercalate]
  | cons g gs =>
    have hne : hexadecimalDigits g ≠ [] := Nat.toDigits_ne_nil
    cases gs with
    | nil => simpa [colonJoined, List.intercalate] using hne
    | cons h gs => simp [colonJoined_cons_cons]

theorem side?_colonJoined {gs : List Nat} (h : ∀ g ∈ gs, g < 65536) :
    side? (colonJoined gs) = some gs := by
  unfold side?
  by_cases hne : gs = []
  · subst hne
    rfl
  · have hjoined : (colonJoined gs).isEmpty = false := by
      simpa [colonJoined_eq_nil] using hne
    rw [hjoined, pieces_colonJoined hne]
    exact groupsOf?_map h

theorem groups?_colonJoined {gs : List Nat} (h : ∀ g ∈ gs, g < 65536) (hlen : gs.length = 8) :
    groups? (colonJoined gs) = some gs := by
  have hcut : cutGap? (colonJoined gs) = none := by
    simpa [cutGap?] using cutGap?_colonJoined_append gs []
  simp [groups?, hcut, side?_colonJoined h, hlen]

theorem groups?_gap {as bs : List Nat} (ha : ∀ g ∈ as, g < 65536) (hb : ∀ g ∈ bs, g < 65536)
    (hlen : as.length + bs.length ≤ 7) : groups? (colonJoined as ++ [':', ':'] ++ colonJoined bs) =
      some (as ++ List.replicate (8 - as.length - bs.length) 0 ++ bs) := by
  have hcut : cutGap? (colonJoined as ++ [':', ':'] ++ colonJoined bs) =
      some (colonJoined as, colonJoined bs) := by
    rw [List.append_assoc, cutGap?_colonJoined_append]
    simp [cutGap?]
  have hleft : ((pieces (· == ':') (colonJoined as)).mapM group? <|>
      if (colonJoined as).isEmpty then some [] else none) = some as := by
    by_cases hne : as = []
    · subst hne
      decide
    · have hall : ∀ g ∈ as, group? (hexadecimalDigits g) = some g := fun g hg =>
        group?_hexadecimalDigits (ha g hg)
      rw [pieces_colonJoined hne, mapM_map_eq_some hall]
      rfl
  unfold groups?
  rw [hcut]
  simp only [hleft, side?_colonJoined hb, Option.bind_eq_bind, Option.bind_some, hlen, if_true]

theorem longestZeros_spec (place : Nat) (gs : List Nat) (h : 0 < (longestZeros place gs).2) :
    ∃ as bs, gs = as ++ List.replicate (longestZeros place gs).2 0 ++ bs ∧
      (longestZeros place gs).1 = place + as.length := by
  induction gs generalizing place with
  | nil => simp [longestZeros] at h
  | cons g gs ih =>
    rw [longestZeros] at h ⊢
    by_cases hlater : (longestZeros (place + 1) gs).2 ≤ ((g :: gs).takeWhile (· == 0)).length
    · simp only [hlater, if_true] at h ⊢
      refine ⟨[], (g :: gs).dropWhile (· == 0), ?_, by simp⟩
      have hzeros : (g :: gs).takeWhile (· == 0) =
          List.replicate ((g :: gs).takeWhile (· == 0)).length 0 := by
        apply List.eq_replicate_iff.2
        refine ⟨rfl, fun x hx => ?_⟩
        simpa using List.mem_takeWhile_imp hx
      rw [List.nil_append, ← hzeros, List.takeWhile_append_dropWhile]
    · simp only [hlater, if_false] at h ⊢
      obtain ⟨as, bs, hgs, hplace⟩ := ih (place + 1) h
      refine ⟨g :: as, bs, ?_, ?_⟩
      · rw [List.cons_append, List.cons_append, ← hgs]
      · rw [hplace, List.length_cons]
        omega

theorem groups?_writeGroups {gs : List Nat} (h : ∀ g ∈ gs, g < 65536) (hlen : gs.length = 8) :
    groups? (writeGroups gs) = some gs := by
  unfold writeGroups
  by_cases hlong : (longestZeros 0 gs).2 ≥ 2
  · obtain ⟨as, bs, hgs, hplace⟩ := longestZeros_spec 0 gs (by omega)
    set n := (longestZeros 0 gs).2 with hn
    rw [Nat.zero_add] at hplace
    have htake : gs.take as.length = as := by
      rw [hgs, List.append_assoc]
      exact List.take_left
    have hdrop : gs.drop (as.length + n) = bs := by
      have hfront : (as ++ List.replicate n 0).length = as.length + n := by simp
      rw [hgs, ← hfront]
      exact List.drop_left
    have htotal : as.length + n + bs.length = 8 := by
      rw [← hlen, hgs]
      simp
      omega
    have hgap : groups? (colonJoined as ++ [':', ':'] ++ colonJoined bs) =
        some (as ++ List.replicate (8 - as.length - bs.length) 0 ++ bs) := by
      apply groups?_gap
      · intro g hg
        exact h g (by rw [hgs]; simp [hg])
      · intro g hg
        exact h g (by rw [hgs]; simp [hg])
      · omega
    have hzeros : 8 - as.length - bs.length = n := by omega
    simp only [hplace, ← hn, htake, hdrop]
    rw [if_pos hlong, hgap, hzeros, ← hgs]
  · simp only [hlong, if_false]
    exact groups?_colonJoined h hlen

theorem groups_fit (a : Address) : ∀ g ∈ a.groups, g < 65536 := fun _ hg =>
  lt_of_mem_digits (by decide) hg

theorem readV6?_writeGroups {a : Address} (hf : a.family = .v6) :
    readV6? (writeGroups a.groups) = some a := by
  have hfits : a.value < 65536 ^ 8 := by
    have h := a.fits
    rw [hf] at h
    exact h
  have hvalue : spell 65536 a.groups = a.value := spell_digits hfits
  rw [readV6?, groups?_writeGroups (groups_fit a) (length_digits ..), Option.map_some, hvalue, ← hf,
    ofNat_value]

def isSign (c : Char) : Bool := isHexDigit c || c == ':' || c == '.'

theorem isSign_of_isDigit {c : Char} (h : isDigit c = true) : isSign c = true := by
  have hhex : isHexDigit c = true := by simp [isHexDigit, hexValue?, h]
  simp [isSign, hhex]

theorem octets?_eq_some {cs : List Char} {os : List Nat} (h : octets? cs = some os) :
    ∀ c ∈ cs, c = '.' ∨ isDigit c = true := by
  intro c hc
  unfold octets? at h
  split at h
  · rename_i hm
    rcases mem_or_sep_of_pieces (p := (· == '.')) hc with hdot | ⟨part, hpart, hmem⟩
    · exact .inl (by simpa using hdot)
    · obtain ⟨n, -, hn⟩ := exists_of_mapM hm hpart
      exact .inr (isDigit_of_octet? hn c hmem)
  · cases h

theorem isSign_of_octets? {cs : List Char} {os : List Nat} (h : octets? cs = some os) :
    ∀ c ∈ cs, isSign c = true := by
  intro c hc
  rcases octets?_eq_some h c hc with rfl | hd
  · decide
  · exact isSign_of_isDigit hd

theorem isSign_of_group? {cs : List Char} {g : Nat} (h : group? cs = some g) :
    ∀ c ∈ cs, isSign c = true := by
  intro c hc
  simp [isSign, isHexDigit_of_group? h c hc]

theorem isSign_of_groupsOf? {parts : List (List Char)} {gs : List Nat}
    (h : groupsOf? parts = some gs) : ∀ part ∈ parts, ∀ c ∈ part, isSign c = true := by
  induction parts generalizing gs with
  | nil =>
    intro part hpart
    cases hpart
  | cons x rest ih =>
    intro part hpart
    cases rest with
    | nil =>
      obtain rfl := List.mem_singleton.1 hpart
      unfold groupsOf? at h
      split at h
      · rename_i g hg
        exact isSign_of_group? hg
      · split at h
        · rename_i hos
          exact isSign_of_octets? hos
        · cases h
    | cons y rest =>
      rw [groupsOf?] at h
      · obtain ⟨g, hg, h⟩ := Option.bind_eq_some_iff.1 h
        obtain ⟨gs', hgs, -⟩ := Option.bind_eq_some_iff.1 h
        rcases List.mem_cons.1 hpart with rfl | hpart
        · exact isSign_of_group? hg
        · exact ih hgs part hpart
      · simp

theorem isSign_of_pieces {cs : List Char}
    (h : ∀ part ∈ pieces (· == ':') cs, ∀ c ∈ part, isSign c = true) :
    ∀ c ∈ cs, isSign c = true := by
  intro c hc
  rcases mem_or_sep_of_pieces (p := (· == ':')) hc with hcolon | ⟨part, hpart, hmem⟩
  · have he : c = ':' := by simpa using hcolon
    subst he
    decide
  · exact h part hpart c hmem

theorem isSign_of_side? {cs : List Char} {gs : List Nat} (h : side? cs = some gs) :
    ∀ c ∈ cs, isSign c = true := by
  unfold side? at h
  split at h
  · rename_i hempty
    intro c hc
    rw [List.isEmpty_iff.1 hempty] at hc
    cases hc
  · exact isSign_of_pieces (isSign_of_groupsOf? h)

theorem eq_of_cutGap? {cs as bs : List Char} (h : cutGap? cs = some (as, bs)) :
    cs = as ++ ':' :: ':' :: bs := by
  induction cs generalizing as with
  | nil => cases h
  | cons c r ih =>
    unfold cutGap? at h
    split at h
    · rename_i he
      cases h
      rw [he]
      rfl
    · rename_i he
      cases he
      obtain ⟨⟨x, y⟩, hx, hxy⟩ := Option.map_eq_some_iff.1 h
      cases hxy
      rw [ih hx]
      rfl
    · cases h

theorem isSign_of_groups? {cs : List Char} {gs : List Nat} (h : groups? cs = some gs) :
    ∀ c ∈ cs, isSign c = true := by
  unfold groups? at h
  split at h
  · exact isSign_of_side? (Option.filter_eq_some_iff.1 h).1
  · rename_i left right hcut
    obtain ⟨as, has, h⟩ := Option.bind_eq_some_iff.1 h
    obtain ⟨bs, hbs, -⟩ := Option.bind_eq_some_iff.1 h
    have hleft : ∀ c ∈ left, isSign c = true := by
      cases hm : (pieces (· == ':') left).mapM group? with
      | some gs' =>
        apply isSign_of_pieces
        intro part hpart
        obtain ⟨g, -, hg⟩ := exists_of_mapM hm hpart
        exact isSign_of_group? hg
      | none =>
        rw [hm] at has
        change (if left.isEmpty then some [] else none) = some as at has
        split at has
        · rename_i hempty
          intro c hc
          rw [List.isEmpty_iff.1 hempty] at hc
          cases hc
        · cases has
    intro c hc
    rw [eq_of_cutGap? hcut, List.mem_append, List.mem_cons, List.mem_cons] at hc
    rcases hc with hc | rfl | rfl | hc
    · exact hleft c hc
    · decide
    · decide
    · exact isSign_of_side? hbs c hc

theorem isSign_of_readV6? {cs : List Char} {a : Address} (h : readV6? cs = some a) :
    ∀ c ∈ cs, isSign c = true := by
  obtain ⟨gs, hgs, -⟩ := Option.map_eq_some_iff.1 h
  exact isSign_of_groups? hgs

theorem read?_of_not_v4 {cs : List Char} (h : readV4? cs = none) : read? cs = readV6? cs := by
  rw [read?, h]
  rfl

theorem isSign_of_read? {cs : List Char} {a : Address} (h : read? cs = some a) :
    ∀ c ∈ cs, isSign c = true := by
  cases hv : readV4? cs with
  | some b =>
    obtain ⟨os, hos, -⟩ := Option.map_eq_some_iff.1 hv
    exact isSign_of_octets? hos
  | none =>
    rw [read?_of_not_v4 hv] at h
    exact isSign_of_readV6? h

theorem readV4?_of_colon {cs : List Char} (h : ':' ∈ cs) : readV4? cs = none := by
  cases hos : octets? cs with
  | none => simp [readV4?, hos]
  | some os =>
    have hcolon := octets?_eq_some hos ':' h
    exact absurd hcolon (by decide)

theorem colon_mem_writeGroups {gs : List Nat} (hlen : gs.length = 8) : ':' ∈ writeGroups gs := by
  unfold writeGroups
  dsimp only
  split
  · simp
  · obtain ⟨g, h, rest, rfl⟩ : ∃ g h rest, gs = g :: h :: rest := by
      match gs, hlen with
      | g :: h :: rest, _ => exact ⟨g, h, rest, rfl⟩
    simp [colonJoined_cons_cons]

theorem write_v4 {a : Address} (hf : a.family = .v4) : a.write = a.writeV4 := by
  simp [write, hf]

theorem write_v6 {a : Address} (hf : a.family = .v6) : a.write = a.writeV6 := by
  simp [write, hf]

theorem colon_mem_write {a : Address} (hf : a.family = .v6) : ':' ∈ a.write := by
  rw [write_v6 hf]
  unfold writeV6
  split
  · simp
  · exact colon_mem_writeGroups (length_digits ..)

theorem mem_writeV4 (a : Address) : ∀ c ∈ a.writeV4, c = '.' ∨ isDigit c = true :=
  octets?_eq_some (octets?_writeV4 a)

/-- Its dots keep the older notation from being read as a group. -/
theorem group?_writeV4 (a : Address) : group? a.writeV4 = none := by
  have hmem : '.' ∈ a.writeV4 := by
    simp [writeV4, octets, digits]
  have hnot : isHexDigit '.' = false := by decide
  cases hg : group? a.writeV4 with
  | none => rfl
  | some g =>
    have hdot := isHexDigit_of_group? hg '.' hmem
    rw [hnot] at hdot
    cases hdot

theorem side?_mapped {a : Address} {w x y z : Nat} (h : a.octets = [w, x, y, z]) :
    side? (['f', 'f', 'f', 'f', ':'] ++ a.writeV4) =
      some [0xFFFF, 256 * w + x, 256 * y + z] := by
  have hpieces : pieces (· == ':') (['f', 'f', 'f', 'f', ':'] ++ a.writeV4) =
      [['f', 'f', 'f', 'f'], a.writeV4] := by
    have hcolon : ':' ∉ a.writeV4 := fun hc => absurd (mem_writeV4 a ':' hc) (by decide)
    have hfree : pieces (· == ':') a.writeV4 = [a.writeV4] := pieces_of_free fun c hc => by
      have hne : c ≠ ':' := fun he => hcolon (he ▸ hc)
      simpa using hne
    have hcut := pieces_append_cons (p := (· == ':')) (c := ':') (by rfl) ['f', 'f', 'f', 'f']
      a.writeV4
    rw [hfree] at hcut
    exact hcut
  have hffff : group? ['f', 'f', 'f', 'f'] = some 0xFFFF := by decide
  rw [side?, hpieces]
  simp [groupsOf?, hffff, group?_writeV4, octets?_writeV4, h]

theorem readV6?_mapped {a : Address} (hf : a.family = .v6) (h : a.value / 0x100000000 = 0xFFFF) :
    readV6? ([':', ':', 'f', 'f', 'f', 'f', ':'] ++ writeV4 (ofNat .v4 a.value)) = some a := by
  set b := ofNat .v4 a.value with hb
  have hvalue : b.value = a.value % 2 ^ 32 := rfl
  obtain ⟨w, x, y, z, hos⟩ : ∃ w x y z, b.octets = [w, x, y, z] := ⟨_, _, _, _, rfl⟩
  have hspell : spell 256 [w, x, y, z] = b.value := by
    rw [← hos]
    exact spell_digits b.fits
  have hgap : cutGap? ([':', ':', 'f', 'f', 'f', 'f', ':'] ++ b.writeV4) =
      some ([], ['f', 'f', 'f', 'f', ':'] ++ b.writeV4) := rfl
  have hgroups : groups? ([':', ':', 'f', 'f', 'f', 'f', ':'] ++ b.writeV4) =
      some [0, 0, 0, 0, 0, 0xFFFF, 256 * w + x, 256 * y + z] := by
    have hleft : ((pieces (· == ':') []).mapM group? <|> if ([] : List Char).isEmpty then some []
        else none) = some [] := by decide
    rw [groups?, hgap]
    simp only [hleft, side?_mapped hos, Option.bind_eq_bind, Option.bind_some]
    rfl
  have htotal : spell 65536 [0, 0, 0, 0, 0, 0xFFFF, 256 * w + x, 256 * y + z] = a.value := by
    simp only [spell, List.foldl_cons, List.foldl_nil] at hspell ⊢
    omega
  rw [readV6?, hgroups, Option.map_some, htotal, ← hf, ofNat_value]

theorem read?_write (a : Address) : read? a.write = some a := by
  cases hf : a.family with
  | v4 =>
    rw [write_v4 hf, read?, readV4?_writeV4 hf]
    rfl
  | v6 =>
    have hread : readV6? a.writeV6 = some a := by
      unfold writeV6
      split
      · rename_i h
        exact readV6?_mapped hf (by simpa using h)
      · exact readV6?_writeGroups hf
    rw [read?_of_not_v4 (readV4?_of_colon (colon_mem_write hf)), write_v6 hf, hread]

theorem slash_not_mem_of_read? {cs : List Char} {a : Address} (h : read? cs = some a) :
    '/' ∉ cs := by
  intro hc
  have hsign := isSign_of_read? h '/' hc
  have hnot : isSign '/' = false := by decide
  rw [hnot] at hsign
  cases hsign

end Address

namespace Block

theorem read?_eq_some {cs : List Char} {b : Block} :
    read? cs = some b ↔ ∃ as ls, cs = as ++ '/' :: ls ∧ Address.read? as = some b.address ∧
      unsigned? 256 ls = some b.length := by
  constructor
  · intro h
    obtain ⟨⟨as, ls⟩, hcut, h⟩ := Option.bind_eq_some_iff.1 h
    obtain ⟨a, ha, h⟩ := Option.bind_eq_some_iff.1 h
    obtain ⟨l, hl, h⟩ := Option.bind_eq_some_iff.1 h
    unfold make? at h
    split at h <;> cases h
    exact ⟨as, ls, (cut?_eq_some_iff.1 hcut).2, ha, hl⟩
  · rintro ⟨as, ls, rfl, ha, hl⟩
    have hcut : cut? (· == '/') (as ++ '/' :: ls) = some (as, ls) :=
      cut?_eq_some_iff.2 ⟨Address.slash_not_mem_of_read? ha, rfl⟩
    have hmake : make? b.address b.length = some b := dif_pos b.length_le
    simp only [read?, hcut, ha, hl, hmake, bind, Option.bind]

theorem read?_append {cs : List Char} {a : Address} (h : Address.read? cs = some a) {length : Nat}
    (hl : length ≤ a.family.width) :
    read? (cs ++ '/' :: decimalDigits length) = some ⟨a, length, hl⟩ := by
  have hwidth : a.family.width ≤ 128 := by cases a.family <;> decide
  have hlength : unsigned? 256 (decimalDigits length) = some length :=
    unsigned?_decimalDigits (by omega)
  exact read?_eq_some.2 ⟨cs, _, rfl, h, hlength⟩

theorem read?_write (b : Block) : read? b.write = some b :=
  read?_append (Address.read?_write b.address) b.length_le

end Block

end RdapDirectory.Ip
