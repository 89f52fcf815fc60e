import RdapDirectory.Duration
import RdapDirectory.Proofs.AsciiNames
import RdapDirectory.Proofs.SmallLetters

namespace RdapDirectory

namespace Text

open Idna
open Punycode (isBasic)

theorem unsigned?_eq_some {limit : Nat} {cs : List Char} {n : Nat} :
    unsigned? limit cs = some n ↔ ∃ sign digits, cs = sign ++ digits ∧ sign ∈ [[], ['+']] ∧
      digits ≠ [] ∧ (∀ c ∈ digits, isDigit c = true) ∧ decimalValue digits = n ∧ n < limit := by
  have hfilter : ∀ digits, (decimal? digits).filter (· < limit) = some n ↔
      digits ≠ [] ∧ (∀ c ∈ digits, isDigit c = true) ∧ decimalValue digits = n ∧ n < limit := by
    intro digits
    rw [Option.filter_eq_some_iff, decimal?_eq_some, decide_eq_true_iff]
    simp only [and_assoc]
  unfold unsigned?
  dsimp only
  rw [hfilter]
  constructor
  · intro h
    split at h
    · exact ⟨['+'], _, rfl, by simp, h⟩
    · exact ⟨[], cs, rfl, by simp, h⟩
  · rintro ⟨sign, digits, rfl, hsign, h⟩
    simp only [List.mem_cons, List.not_mem_nil, or_false] at hsign
    rcases hsign with rfl | rfl
    · split
      · exact absurd (h.2.1 '+' (by simp_all)) (by decide)
      · exact h
    · exact h

theorem isDigit_toLower (c : Char) : isDigit c.toLower = isDigit c := by
  apply forall_toLower (P := fun c d => isDigit d = isDigit c)
  · decide
  · exact fun _ _ => rfl

theorem isBasic_of_toLower {c : Char} : isBasic c.toLower = true → isBasic c = true := by
  apply forall_toLower (P := fun c d => isBasic d = true → isBasic c = true)
  · decide
  · exact fun _ _ => id

theorem toLower_eq_plus {c : Char} : c.toLower = '+' ↔ c = '+' := by
  apply forall_toLower (P := fun c d => d = '+' ↔ c = '+')
  · decide
  · exact fun _ _ => Iff.rfl

theorem decimal?_map_toLower (cs : List Char) : decimal? (cs.map Char.toLower) = decimal? cs := by
  have hall : (cs.map Char.toLower).all isDigit = cs.all isDigit := by
    rw [List.all_map]
    congr 1
    funext c
    apply isDigit_toLower
  by_cases hd : cs.all isDigit = true
  · rw [map_toLower_of_digits (List.all_eq_true.1 hd)]
  · simp [decimal?, hall, hd]

theorem unsigned?_map_toLower (limit : Nat) (cs : List Char) :
    unsigned? limit (cs.map Char.toLower) = unsigned? limit cs := by
  cases cs with
  | nil => rfl
  | cons c r =>
    by_cases hc : c = '+'
    · subst hc
      exact congrArg (Option.filter (· < limit)) (decimal?_map_toLower r)
    · have hlower : c.toLower ≠ '+' := mt toLower_eq_plus.1 hc
      have hmap := decimal?_map_toLower (c :: r)
      rw [List.map_cons] at hmap ⊢
      unfold unsigned?
      split
      · simp_all
      · split
        · simp_all
        · exact congrArg (Option.filter (· < limit)) hmap

/-- The capitals beyond ASCII have small letters beyond ASCII, but for the sign of a kelvin. -/
theorem high_of_shift : ∀ r ∈ capitalRuns, r.last < 0x80 ∨ 0x80 ≤ r.first + r.shift ∨
    r.first = r.last ∧ r.last + r.shift = 'k'.toNat := by
  decide +kernel

theorem isBasic_of_smallLetter {c : Char} (h : isBasic (smallLetter c) = true)
    (hzero : smallLetter c ≠ '\x00') (hk : smallLetter c ≠ 'k') : isBasic c = true := by
  by_contra hc
  have hhigh : ¬ c.toNat < 0x80 := by simpa [isBasic] using hc
  rcases smallLetter_of_high hhigh with hsmall | ⟨r, hr, hheld, hsmall⟩
  · exact hc (hsmall ▸ h)
  · obtain ⟨hfirst, hlast, -⟩ := CapitalRun.holds_iff.1 hheld
    have hlow : (smallLetter c).toNat < 0x80 := by simpa [isBasic] using h
    have hne : (smallLetter c).toNat ≠ 0 := fun he => hzero (Char.toNat_inj.1 he)
    have hne' : (smallLetter c).toNat ≠ 'k'.toNat := mt Char.toNat_inj.1 hk
    rw [hsmall] at hlow hne hne'
    have hvalue := (toNat_ofNat _).resolve_right hne
    have hrun := high_of_shift r hr
    omega

theorem lowerFrom_of_basic {cs : List Char} (h : ∀ c ∈ cs, isBasic c = true) (follows : Bool) :
    lowerFrom follows cs = cs.map Char.toLower := by
  induction cs generalizing follows with
  | nil => rfl
  | cons c r ih =>
    obtain ⟨hc, hr⟩ := List.forall_mem_cons.1 h
    have hsigma : c ≠ 'Σ' := by
      rintro rfl
      cases hc
    have hdotted : c ≠ 'İ' := by
      rintro rfl
      cases hc
    have hsmall : smallLetter c = c.toLower := if_pos (of_decide_eq_true hc)
    simp only [lowerFrom, hsigma, hdotted, hsmall, ih hr, if_false, List.map_cons,
      List.singleton_append]

end Text

namespace Duration

open Text Idna
open Punycode (isBasic)

def signs : List Char := "0123456789+smhd".toList

theorem signs_basic : ∀ c ∈ signs, isBasic c = true ∧ c ≠ '\x00' ∧ c ≠ 'k' := by
  have hall : signs.all (fun c => isBasic c && c != '\x00' && c != 'k') = true := by decide
  simpa [and_assoc] using hall

theorem mem_signs_of_isDigit {c : Char} (h : isDigit c = true) : c ∈ signs :=
  forall_basic (P := fun c => isDigit c = true → c ∈ signs) (by decide) (isBasic_of_isDigit h) h

theorem mem_signs_of_unit {c : Char} {unit : Nat} (h : unitSeconds? c = some unit) :
    c ∈ signs := by
  unfold unitSeconds? at h
  split at h
  case h_5 => cases h
  all_goals decide

theorem lowerFrom_of_signs {follows : Bool} {cs : List Char}
    (h : ∀ c ∈ lowerFrom follows cs, c ∈ signs) : lowerFrom follows cs = cs.map Char.toLower := by
  suffices hbasic : ∀ c ∈ cs, isBasic c = true from lowerFrom_of_basic hbasic follows
  induction cs generalizing follows with
  | nil => exact nofun
  | cons c r ih =>
    obtain ⟨hsmall, hrest⟩ := List.forall_mem_append.1 h
    refine List.forall_mem_cons.2 ⟨?_, ih hrest⟩
    split at hsmall
    -- The two letters with forms of their own become nothing that stands in a time.
    · split at hsmall
      · exact absurd (hsmall 'ς' (by simp)) (by decide)
      · exact absurd (hsmall 'σ' (by simp)) (by decide)
    · split at hsmall
      · exact absurd (hsmall 'i' (by simp)) (by decide)
      · obtain ⟨hbasic, hzero, hk⟩ := signs_basic _ (hsmall _ (List.mem_singleton.2 rfl))
        exact isBasic_of_smallLetter hbasic hzero hk

def units : List (List Char × Nat) :=
  [ ([], 1), (['s'], 1), (['S'], 1), (['m'], 60), (['M'], 60), (['h'], 3600), (['H'], 3600),
    (['d'], 86400), (['D'], 86400) ]

def Spells (cs : List Char) (seconds : Nat) : Prop :=
  ∃ sign digits letter unit, cs = sign ++ digits ++ letter ∧ sign ∈ [[], ['+']] ∧
    digits ≠ [] ∧ (∀ c ∈ digits, isDigit c = true) ∧ (letter, unit) ∈ units ∧
    decimalValue digits < 2 ^ 64 ∧ decimalValue digits * unit = seconds ∧ seconds < 2 ^ 64

theorem mem_units {letter : List Char} {unit : Nat} : (letter, unit) ∈ units ↔
    letter = [] ∧ unit = 1 ∨ ∃ c, letter = [c] ∧ unitSeconds? c.toLower = some unit := by
  have hletter : ∀ c : Char, ∀ unit ∈ unitSeconds? c.toLower, ([c], unit) ∈ units := by
    intro c
    apply forall_toLower (P := fun c d => ∀ unit ∈ unitSeconds? d, ([c], unit) ∈ units)
    · decide
    · intro c hc unit hunit
      obtain ⟨hbasic, -⟩ := signs_basic c (mem_signs_of_unit hunit)
      cases hc.symm.trans hbasic
  constructor
  · intro h
    simp only [units, List.mem_cons, Prod.mk.injEq, List.not_mem_nil, or_false] at h
    rcases h with h | h | h | h | h | h | h | h | h
    · exact .inl h
    all_goals
      obtain ⟨rfl, rfl⟩ := h
      exact .inr ⟨_, rfl, rfl⟩
  · rintro (⟨rfl, rfl⟩ | ⟨c, rfl, h⟩)
    · decide
    · exact hletter c unit h

theorem seconds?_eq_some {s : String} {n : Nat} : seconds? s = some n ↔
    ∃ front c, lowerFrom false (trim s).toList = front ++ [c] ∧
      ((unitSeconds? c = none ∧ unsigned? limit (front ++ [c]) = some n) ∨
        ∃ unit m, unitSeconds? c = some unit ∧ unsigned? limit front = some m ∧ m * unit = n ∧
          n < limit) := by
  unfold seconds? lower
  rw [String.toList_ofList]
  generalize lowerFrom false (trim s).toList = cs
  rcases List.eq_nil_or_concat cs with rfl | ⟨front, c, rfl⟩
  · simp
  · dsimp only
    rw [List.concat_eq_append, List.getLast?_concat, List.dropLast_concat]
    dsimp only
    cases hunit : unitSeconds? c with
    | none => simp [hunit]
    | some unit =>
      simp only [Option.filter_eq_some_iff, Option.map_eq_some_iff, decide_eq_true_eq]
      constructor
      · rintro ⟨⟨m, hm, hvalue⟩, hlt⟩
        exact ⟨front, c, rfl, .inr ⟨unit, m, hunit, hm, hvalue, hlt⟩⟩
      · rintro ⟨front', c', he, hread⟩
        obtain ⟨rfl, rfl⟩ := List.append_singleton_inj.1 he
        rw [hunit] at hread
        rcases hread with ⟨hnone, -⟩ | ⟨unit', m, hsome, hm, hvalue, hlt⟩
        · cases hnone
        · cases hsome
          exact ⟨⟨m, hm, hvalue⟩, hlt⟩

theorem not_unit_of_isDigit {c : Char} (h : isDigit c = true) : unitSeconds? c = none :=
  forall_basic (P := fun c => isDigit c = true → unitSeconds? c = none) (by decide)
    (isBasic_of_isDigit h) h

theorem limit_eq : limit = 2 ^ 64 := rfl

theorem mem_signs_of_unsigned? {limit : Nat} {cs : List Char} {n : Nat}
    (h : unsigned? limit cs = some n) : ∀ c ∈ cs, c ∈ signs := by
  intro c hc
  rcases mem_of_unsigned? h c hc with rfl | hd
  · decide
  · exact mem_signs_of_isDigit hd

theorem spells_of_seconds? {s : String} {n : Nat} (h : seconds? s = some n) :
    Spells (trim s).toList n := by
  obtain ⟨front, c, hlower, hread⟩ := seconds?_eq_some.1 h
  have hsigns : ∀ x ∈ front ++ [c], x ∈ signs := by
    rcases hread with ⟨-, hn⟩ | ⟨unit, m, hunit, hm, -⟩
    · exact mem_signs_of_unsigned? hn
    · refine List.forall_mem_append.2 ⟨mem_signs_of_unsigned? hm, fun x hx => ?_⟩
      rw [List.mem_singleton.1 hx]
      exact mem_signs_of_unit hunit
  have hmap := lowerFrom_of_signs (hlower ▸ hsigns)
  rw [hmap] at hlower
  rcases hread with ⟨-, hn⟩ | ⟨unit, m, hunit, hm, hvalue, hlt⟩
  · rw [← hlower, unsigned?_map_toLower] at hn
    obtain ⟨sign, digits, hcs, hsign, hne, hdigits, hvalue, hlt⟩ := unsigned?_eq_some.1 hn
    refine ⟨sign, digits, [], 1, by simpa using hcs, hsign, hne, hdigits, by decide, ?_, ?_, hlt⟩
    · rw [hvalue]
      exact hlt
    · rw [hvalue, Nat.mul_one]
  · obtain ⟨front', last, hcs, rfl, hlast⟩ := List.map_eq_append_iff.1 hlower
    obtain ⟨c', rfl, rfl⟩ := List.map_eq_singleton_iff.1 hlast
    rw [unsigned?_map_toLower] at hm
    obtain ⟨sign, digits, rfl, hsign, hne, hdigits, rfl, hm⟩ := unsigned?_eq_some.1 hm
    exact ⟨sign, digits, [c'], unit, hcs, hsign, hne, hdigits, mem_units.2 (.inr ⟨c', rfl, hunit⟩),
      hm, hvalue, hlt⟩

theorem units_basic {letter : List Char} {unit : Nat} (h : (letter, unit) ∈ units) :
    ∀ c ∈ letter, isBasic c = true := by
  rcases mem_units.1 h with ⟨rfl, -⟩ | ⟨c, rfl, hunit⟩
  · exact nofun
  · obtain ⟨hbasic, -⟩ := signs_basic _ (mem_signs_of_unit hunit)
    exact List.forall_mem_singleton.2 (isBasic_of_toLower hbasic)

theorem seconds?_of_spells {s : String} {n : Nat} (h : Spells (trim s).toList n) :
    seconds? s = some n := by
  obtain ⟨sign, digits, letter, unit, hcs, hsign, hne, hdigits, hunit, hlt, hvalue, hn⟩ := h
  have hread : unsigned? limit ((sign ++ digits).map Char.toLower) =
      some (decimalValue digits) := by
    rw [unsigned?_map_toLower]
    exact unsigned?_eq_some.2 ⟨sign, digits, rfl, hsign, hne, hdigits, rfl, hlt⟩
  have hbasic : ∀ c ∈ (trim s).toList, isBasic c = true := by
    rw [hcs]
    refine List.forall_mem_append.2 ⟨List.forall_mem_append.2 ⟨fun c hc => ?_, ?_⟩, ?_⟩
    · obtain rfl : c = '+' := by
        simp only [List.mem_cons, List.not_mem_nil, or_false] at hsign
        rcases hsign with rfl | rfl
        · cases hc
        · exact List.mem_singleton.1 hc
      decide
    · exact fun c hc => isBasic_of_isDigit (hdigits c hc)
    · exact units_basic hunit
  have hlower := lowerFrom_of_basic hbasic false
  apply seconds?_eq_some.2
  rw [hlower, hcs]
  rcases mem_units.1 hunit with ⟨rfl, rfl⟩ | ⟨c, rfl, hc⟩
  · obtain ⟨front, c, rfl⟩ : ∃ front c, digits = front ++ [c] :=
      ⟨_, _, (List.dropLast_append_getLast hne).symm⟩
    have hlast : isDigit c.toLower = true := by
      rw [isDigit_toLower]
      exact hdigits c (by simp)
    refine ⟨(sign ++ front).map Char.toLower, c.toLower, by simp, .inl ⟨?_, ?_⟩⟩
    · exact not_unit_of_isDigit hlast
    · rw [← hvalue, Nat.mul_one, ← hread]
      simp
  · exact ⟨(sign ++ digits).map Char.toLower, c.toLower, by simp, .inr
      ⟨unit, _, hc, hread, hvalue, hn⟩⟩

theorem cut_before_unit {s : String} {c : Char} {unit : Nat}
    (hlast : s.toList.getLast? = some c) (hunit : unitSeconds? c = some unit) :
    ∃ front : String, s = front.push c ∧ front.rawEndPos.byteIdx = s.utf8ByteSize - 1 ∧
      front.rawEndPos.IsValid s := by
  obtain ⟨hbasic, -⟩ := signs_basic c (mem_signs_of_unit hunit)
  obtain ⟨front, hfront⟩ := List.getLast?_eq_some_iff.1 hlast
  have htext : s = (String.ofList front).push c := by
    apply String.toList_inj.1
    rw [String.toList_push, String.toList_ofList, hfront]
  have hsize : c.utf8Size = 1 := by
    have hlow : c.val.toNat < 0x80 := of_decide_eq_true hbasic
    apply Char.utf8Size_eq_one_iff.2
    exact Nat.le_of_lt_succ hlow
  have hall := congrArg String.utf8ByteSize htext
  rw [String.utf8ByteSize_push, hsize] at hall
  refine ⟨String.ofList front, htext, ?_, ?_⟩
  · exact Nat.eq_sub_of_add_eq hall.symm
  · exact String.Pos.Raw.isValid_iff_exists_append.2
      ⟨_, String.singleton c, by rw [htext, String.push_eq_append], rfl⟩

theorem not_isBlank_of_isDigit {c : Char} (h : isDigit c = true) : isBlank c = false :=
  forall_basic (P := fun c => isDigit c = true → isBlank c = false) (by decide)
    (isBasic_of_isDigit h) h

theorem units_visible {letter : List Char} {unit : Nat} (h : (letter, unit) ∈ units) :
    ∀ c ∈ letter, isBlank c = false := by
  have hall : units.all (fun u => u.1.all (!isBlank ·)) = true := by decide
  simpa using List.all_eq_true.1 hall _ h

theorem units_pos {letter : List Char} {unit : Nat} (h : (letter, unit) ∈ units) : 0 < unit := by
  have hall : units.all (fun u => 0 < u.2) = true := by decide
  simpa using List.all_eq_true.1 hall _ h

theorem seconds?_digits {letter : List Char} {unit : Nat} (h : (letter, unit) ∈ units) (n : Nat) :
    seconds? (.ofList (decimalDigits n ++ letter)) =
      if n * unit < limit then some (n * unit) else none := by
  have hdigits : ∀ c ∈ decimalDigits n, isDigit c = true := fun c hc =>
    isDigit_of_mem_decimalDigits hc
  have hbasic : ∀ c ∈ decimalDigits n ++ letter, isBasic c = true :=
    List.forall_mem_append.2 ⟨fun c hc => isBasic_of_isDigit (hdigits c hc), units_basic h⟩
  have hvisible : ∀ c ∈ decimalDigits n ++ letter, isBlank c = false :=
    List.forall_mem_append.2
      ⟨fun c hc => not_isBlank_of_isDigit (hdigits c hc), units_visible h⟩
  have hlower : (lower (trim (.ofList (decimalDigits n ++ letter)))).toList =
      decimalDigits n ++ letter.map Char.toLower := by
    rw [trim, lower, String.toList_ofList, String.toList_ofList, String.toList_ofList,
      strip_of_free hvisible, lowerFrom_of_basic hbasic, List.map_append,
      map_toLower_of_digits hdigits]
  unfold seconds?
  rw [hlower]
  rcases mem_units.1 h with ⟨rfl, rfl⟩ | ⟨c, rfl, hunit⟩
  · have hne : decimalDigits n ≠ [] := Nat.toDigits_ne_nil
    have hlast := List.getLast?_eq_some_getLast hne
    have hnone := not_unit_of_isDigit (hdigits _ (List.getLast_mem hne))
    simp [hlast, hnone, unsigned?_decimalDigits_eq, Option.filter_some]
  · have hle : n ≤ n * unit := Nat.le_mul_of_pos_right n (units_pos h)
    by_cases hn : n < limit
    · simp [hunit, unsigned?_decimalDigits_eq, Option.filter_some, hn]
    · have hvalue : ¬ n * unit < limit := by omega
      simp [hunit, unsigned?_decimalDigits_eq, Option.filter_some, hn, hvalue]

theorem seconds_iff_spells :
    (∀ s n, seconds? s = some n ↔ Spells (trim s).toList n) ∧
    (∀ s c unit, (lower (trim s)).toList.getLast? = some c → unitSeconds? c = some unit →
      ∃ front : String, lower (trim s) = front.push c ∧
        front.rawEndPos.byteIdx = (lower (trim s)).utf8ByteSize - 1 ∧
        front.rawEndPos.IsValid (lower (trim s))) ∧
    ∀ letter unit, (letter, unit) ∈ units → ∀ n, seconds? (.ofList (decimalDigits n ++ letter)) =
      if n ≤ (2 ^ 64 - 1) / unit then some (n * unit) else none := by
  refine ⟨fun s n => ⟨spells_of_seconds?, seconds?_of_spells⟩, fun s c unit => cut_before_unit, ?_⟩
  intro letter unit h n
  have hpos := units_pos h
  have hmost : n * unit < limit ↔ n ≤ (2 ^ 64 - 1) / unit := by
    rw [limit_eq, Nat.le_div_iff_mul_le hpos]
    omega
  simp only [seconds?_digits h, hmost]

theorem seconds_of_days :
    seconds? "213503982334601d" = some 18446744073709526400 ∧
      seconds? "213503982334602d" = none ∧
      (⟨2⟩ : String.Pos.Raw).IsValid (lower (trim " 24H")) := by
  obtain ⟨-, hcut, hdigits⟩ := seconds_iff_spells
  have hdays := hdigits ['d'] 86400 (by decide)
  have hmost : String.ofList (decimalDigits 213503982334601 ++ ['d']) = "213503982334601d" := by
    decide +kernel
  have hmore : String.ofList (decimalDigits 213503982334602 ++ ['d']) = "213503982334602d" := by
    decide +kernel
  refine ⟨?_, ?_, ?_⟩
  · rw [← hmost, hdays]
    decide
  · rw [← hmore, hdays]
    decide
  · obtain ⟨front, -, hend, hvalid⟩ := hcut " 24H" 'h' 3600 (by decide +kernel) rfl
    have hsize : (lower (trim " 24H")).utf8ByteSize - 1 = 2 := by decide +kernel
    rw [hsize] at hend
    exact (String.Pos.Raw.ext hend : front.rawEndPos = ⟨2⟩) ▸ hvalid

end Duration

end RdapDirectory
