import RdapDirectory.Proofs.LongestPrefixes

/-!
The bounds of a block in words of 128 bits, by a mask on the bits behind the length. No step leaves
the range of its word, and the addresses of the block are those between the bounds.
-/

namespace RdapDirectory

namespace Ip

abbrev Word := BitVec 128

def minus? {w : Nat} (x y : BitVec w) : Option (BitVec w) := if y ≤ x then some (x - y) else none

def shift? (x : Word) (count : BitVec 32) : Option Word :=
  if count.toNat < 128 then some (x <<< count) else none

def hostMask? (family : Family) (length : BitVec 8) : Option Word := do
  let count ← minus? (.ofNat 32 family.width) (length.setWidth 32)
  -- A block of all addresses of a word: the shift would leave it.
  if count = 128 then some (.allOnes 128) else minus? (← shift? 1 count) 1

def Address.word (a : Address) : Word := .ofNat 128 a.value

def bounds? (a : Address) (length : BitVec 8) : Option (Word × Word) := do
  let mask ← hostMask? a.family length
  let start := a.word &&& ~~~mask
  some (start, start ||| mask)

def Address.bit (a : Address) (i : Nat) : Bool := a.value.testBit (a.family.width - 1 - i)

theorem Family.width_le (f : Family) : f.width ≤ 128 := by cases f <;> decide

theorem toNat_of_width {f : Family} {n : Nat} (h : n < 2 ^ f.width) :
    (BitVec.ofNat 128 n).toNat = n := by
  have hpow : 2 ^ f.width ≤ 2 ^ 128 := Nat.pow_le_pow_right (by decide) f.width_le
  rw [BitVec.toNat_ofNat, Nat.mod_eq_of_lt (h.trans_le hpow)]

theorem Address.toNat_word (a : Address) : a.word.toNat = a.value := toNat_of_width a.fits

theorem minus?_ofNat {w m n : Nat} (hm : m < 2 ^ w) (hn : n < 2 ^ w) :
    minus? (.ofNat w m) (.ofNat w n) = if n ≤ m then some (.ofNat w (m - n)) else none := by
  have hle : BitVec.ofNat w n ≤ .ofNat w m ↔ n ≤ m := by
    rw [BitVec.ofNat_le_ofNat, Nat.mod_eq_of_lt hm, Nat.mod_eq_of_lt hn]
  unfold minus?
  by_cases h : n ≤ m
  · rw [if_pos (hle.2 h), if_pos h, BitVec.ofNat_sub_ofNat_of_le _ _ hn h]
  · rw [if_neg (mt hle.1 h), if_neg h]

theorem shift?_one {k : Nat} (h : k < 128) :
    shift? 1 (.ofNat 32 k) = some (.ofNat 128 (2 ^ k)) := by
  have hk : (BitVec.ofNat 32 k).toNat = k := by
    rw [BitVec.toNat_ofNat]
    exact Nat.mod_eq_of_lt (by omega)
  unfold shift?
  rw [if_pos (by rw [hk]; exact h)]
  apply congrArg some
  apply BitVec.eq_of_toNat_eq
  rw [BitVec.shiftLeft_eq', hk]
  simp [Nat.shiftLeft_eq]

theorem count_eq (f : Family) {n : Nat} (hn : n < 2 ^ 8) :
    minus? (.ofNat 32 f.width) ((BitVec.ofNat 8 n).setWidth 32) =
      if n ≤ f.width then some (.ofNat 32 (f.width - n)) else none := by
  have hwidth := f.width_le
  rw [BitVec.setWidth_ofNat_of_le_of_lt (by decide) hn]
  exact minus?_ofNat (by omega) (by omega)

theorem hostMask?_eq (f : Family) {n : Nat} (h : n ≤ f.width) :
    hostMask? f (.ofNat 8 n) = some (.ofNat 128 (2 ^ (f.width - n) - 1)) := by
  have hwidth := f.width_le
  unfold hostMask?
  rw [count_eq f (by omega), if_pos h]
  obtain hall | hlt : f.width - n = 128 ∨ f.width - n < 128 := by omega
  · rw [hall]
    rfl
  · have hne : BitVec.ofNat 32 (f.width - n) ≠ 128 := by
      intro he
      have hmod := congrArg BitVec.toNat he
      rw [BitVec.toNat_ofNat, Nat.mod_eq_of_lt (by omega)] at hmod
      exact hlt.ne hmod
    have hpow : 2 ^ (f.width - n) < 2 ^ 128 := Nat.pow_lt_pow_right (by decide) hlt
    simp only [bind, Option.bind, if_neg hne, shift?_one hlt]
    exact (minus?_ofNat hpow (by decide)).trans (if_pos Nat.one_le_two_pow)

theorem hostMask?_eq_none (f : Family) {n : Nat} (hn : n < 2 ^ 8) (h : f.width < n) :
    hostMask? f (.ofNat 8 n) = none := by
  unfold hostMask?
  rw [count_eq f hn, if_neg (not_le.2 h)]
  rfl

namespace Block

theorem start_eq (b : Block) :
    b.address.word &&& ~~~BitVec.ofNat 128 (b.size - 1) = .ofNat 128 b.first := by
  apply BitVec.eq_of_getLsbD_eq
  intro i hi
  have hfirst : b.first.testBit i =
      (decide (b.family.width - b.length ≤ i) && b.address.value.testBit i) := by
    rw [first_eq, size_eq, Nat.testBit_two_pow_mul, Nat.testBit_div_two_pow]
    by_cases h : b.family.width - b.length ≤ i
    · simp [h]
    · simp [h]
  rw [BitVec.getLsbD_and, BitVec.getLsbD_not, Address.word, BitVec.getLsbD_ofNat,
    BitVec.getLsbD_ofNat, BitVec.getLsbD_ofNat, hfirst, size_eq, Nat.testBit_two_pow_sub_one]
  generalize b.family.width - b.length = count
  by_cases h : i < count
  · simp [h]
  · simp [hi, h, not_lt.1 h]

theorem last_eq (b : Block) :
    BitVec.ofNat 128 b.first ||| .ofNat 128 (b.size - 1) = .ofNat 128 b.last := by
  have hor : b.first ||| (b.size - 1) = b.last := by
    rw [last, first_eq]
    exact (Nat.two_pow_add_eq_or_of_lt (Nat.sub_lt b.size_pos Nat.one_pos) _).symm
  rw [← BitVec.ofNat_or, hor]

theorem bounds?_eq (b : Block) :
    bounds? b.address (.ofNat 8 b.length) = some (.ofNat 128 b.first, .ofNat 128 b.last) := by
  have hmask : hostMask? b.address.family (.ofNat 8 b.length) = some (.ofNat 128 (b.size - 1)) :=
    hostMask?_eq _ b.length_le
  simp only [bounds?, hmask, bind, Option.bind, start_eq, last_eq]

theorem bounds?_eq_none (a : Address) (length : BitVec 8) :
    bounds? a length = none ↔ a.family.width < length.toNat := by
  have hlength : BitVec.ofNat 8 length.toNat = length := BitVec.eq_of_toNat_eq (by simp)
  constructor
  · intro hnone
    by_contra hle
    have hsome := bounds?_eq ⟨a, length.toNat, not_lt.1 hle⟩
    rw [hlength] at hsome
    cases hnone.symm.trans hsome
  · intro hlt
    have hmask := hostMask?_eq_none a.family length.isLt hlt
    rw [hlength] at hmask
    simp only [bounds?, hmask, bind, Option.bind]

theorem has_iff_bit {b : Block} {x : Address} :
    b.Has x ↔ x.family = b.family ∧ ∀ i < b.length, x.bit i = b.address.bit i := by
  have hlength : b.length ≤ b.family.width := b.length_le
  constructor
  · rintro ⟨hf, hbits⟩
    refine ⟨hf, ?_⟩
    intro i hi
    unfold Address.bit
    rw [hf]
    apply hbits
    omega
  · rintro ⟨hf, hbits⟩
    refine ⟨hf, ?_⟩
    intro i hi
    by_cases hin : i < b.family.width
    · have hbit := hbits (b.family.width - 1 - i) (by omega)
      unfold Address.bit at hbit
      have hplace : b.family.width - 1 - (b.family.width - 1 - i) = i := by omega
      rw [hf] at hbit
      exact hplace ▸ hbit
    -- Behind the width no address has a bit.
    · have hpow : 2 ^ b.family.width ≤ 2 ^ i := Nat.pow_le_pow_right (by decide) (not_lt.1 hin)
      have hx : x.value < 2 ^ i := (hf ▸ x.fits).trans_le hpow
      have hb : b.address.value < 2 ^ i := b.address.fits.trans_le hpow
      rw [Nat.testBit_lt_two_pow hx, Nat.testBit_lt_two_pow hb]

theorem covers_iff_bounds {m b : Block} (hf : m.family = b.family) :
    m.Covers b ↔ m.first ≤ b.first ∧ b.last ≤ m.last := by
  constructor
  · intro h
    obtain ⟨-, hlow, -⟩ := has_iff.1 (h _ b.has_first)
    obtain ⟨-, -, hhigh⟩ := has_iff.1 (h _ b.has_last)
    exact ⟨hlow, hhigh⟩
  · rintro ⟨hlow, hhigh⟩ x hx
    obtain ⟨hfx, hlow', hhigh'⟩ := has_iff.1 hx
    exact has_iff.2 ⟨hfx.trans hf.symm, hlow.trans hlow', hhigh'.trans hhigh⟩

theorem starts_in_iff {m b : Block} (hf : m.family = b.family) (h : m.length ≤ b.length) :
    m.first ≤ b.first ∧ b.first ≤ m.last ↔ m.first ≤ b.first ∧ b.last ≤ m.last := by
  rw [← covers_iff_bounds hf, covers_iff]
  simp [hf, h]

theorem eq_of_starts_in {m b : Block} (hf : m.family = b.family) (h : m.length = b.length)
    (hstart : m.first ≤ b.first ∧ b.first ≤ m.last) : m.first = b.first ∧ m.last = b.last := by
  have hsize : m.size = b.size := by rw [size_eq, size_eq, hf, h]
  obtain ⟨hlow, hhigh⟩ := (starts_in_iff hf h.le).1 hstart
  unfold last at hhigh ⊢
  omega

theorem eq_or_apart {m b : Block} (hf : m.family = b.family) (h : m.length = b.length) :
    m.first = b.first ∧ m.last = b.last ∨ m.last < b.first ∨ b.last < m.first := by
  by_cases hb : m.first ≤ b.first ∧ b.first ≤ m.last
  · exact .inl (eq_of_starts_in hf h hb)
  · by_cases hm : b.first ≤ m.first ∧ m.first ≤ b.last
    · obtain ⟨hfirst, hlast⟩ := eq_of_starts_in hf.symm h.symm hm
      exact .inl ⟨hfirst.symm, hlast.symm⟩
    · omega

theorem toNat_first (b : Block) : (BitVec.ofNat 128 b.first).toNat = b.first :=
  toNat_of_width b.truncate.address.fits

theorem toNat_last (b : Block) : (BitVec.ofNat 128 b.last).toNat = b.last :=
  toNat_of_width b.last_lt

end Block

end Ip

namespace Registry

open Ip

namespace Networks

theorem mem_holdings {family : Family} {length : Nat} {f : File} {x : Holding} :
    x ∈ (bucket family length f).holdings ↔
      ∃ i ∈ f.entries.items, holding? family length i = some x := by
  rw [holdings_bucket, List.mem_toArray, List.mem_map]
  constructor
  · rintro ⟨⟨i, y⟩, hmem, rfl⟩
    obtain ⟨hi, hread⟩ := (mem_rowOf ..).1 hmem
    exact ⟨i, hi, hread⟩
  · rintro ⟨i, hi, hread⟩
    exact ⟨(i, x), (mem_rowOf ..).2 ⟨hi, hread⟩, rfl⟩

section Candidates

variable {f : File} {b : Block} {k : Bucket} (hk : k ∈ (ofFile b.family f).buckets)
  (hlength : k.length ≤ b.length)

include hk

theorem exists_length : ∃ length, k = bucket b.family length f := by
  obtain ⟨length, -, rfl⟩ := List.mem_map.1 hk
  exact ⟨length, rfl⟩

theorem network_of_mem {x : Holding} (hx : x ∈ k.holdings) :
    x.network.family = b.family ∧ x.network.length = k.length := by
  obtain ⟨length, rfl⟩ := exists_length hk
  obtain ⟨i, -, hread⟩ := mem_holdings.1 hx
  obtain ⟨hregisters, -, hsame⟩ := registers_of_holding? hread
  exact ⟨family_of_registers hregisters, hsame⟩

include hlength

theorem covers_of_candidate {x : Holding} (hfound : k.find? b.first = some x) :
    x ∈ k.holdings ∧ x.network.Covers b := by
  obtain ⟨length, rfl⟩ := exists_length hk
  obtain ⟨i, hi, hread, hlow, hhigh, -⟩ := find?_eq_some hfound
  have hmem := mem_holdings.2 ⟨i, hi, hread⟩
  obtain ⟨hf, hsame⟩ := network_of_mem hk hmem
  exact ⟨hmem, Block.covers_iff.2 ⟨hf, hsame.le.trans hlength, hlow, hhigh⟩⟩

theorem not_covers_of_no_candidate (hnone : k.find? b.first = none) {x : Holding}
    (hx : x ∈ k.holdings) : ¬ x.network.Covers b := by
  intro hcovers
  obtain ⟨length, rfl⟩ := exists_length hk
  obtain ⟨i, hi, hread⟩ := mem_holdings.1 hx
  obtain ⟨-, -, hlow, hhigh⟩ := Block.covers_iff.1 hcovers
  exact absurd hhigh (not_le.2 (last_lt_of_find? hnone hi hread hlow))

end Candidates

/-- Bounds exist for the lengths up to the width, and between them are just the addresses that agree
on the leading bits. So blocks of one length are equal or apart, and a block that has the first
address of a longer one has all of it. In a bucket this leaves one candidate to look at. -/
theorem bounds_delimit :
    (∀ (a : Address) (length : BitVec 8),
      bounds? a length = none ↔ a.family.width < length.toNat) ∧
    ∀ b : Block, ∃ start last, bounds? b.address (.ofNat 8 b.length) = some (start, last) ∧
      start.toNat = b.first ∧ last.toNat = b.last ∧
      (∀ x : Address, x.family = b.family →
        (start ≤ x.word ∧ x.word ≤ last ↔ ∀ i < b.length, x.bit i = b.address.bit i)) ∧
      (∀ (m : Block) (start' last' : Word), m.family = b.family →
        bounds? m.address (.ofNat 8 m.length) = some (start', last') →
        (m.length = b.length →
          start' = start ∧ last' = last ∨ last' < start ∨ last < start') ∧
        (m.length ≤ b.length →
          (start' ≤ start ∧ start ≤ last' ↔ start' ≤ start ∧ last ≤ last'))) ∧
      ∀ (f : File), ∀ k ∈ (ofFile b.family f).buckets, k.length ≤ b.length →
        (∀ x, k.find? start.toNat = some x → x ∈ k.holdings ∧ x.network.Covers b) ∧
        (k.find? start.toNat = none → ∀ x ∈ k.holdings, ¬ x.network.Covers b) ∧
        ∀ x ∈ k.holdings, ∀ y ∈ k.holdings, x.network.Covers b → y.network.Covers b →
          x.network = y.network := by
  refine ⟨Block.bounds?_eq_none, ?_⟩
  intro b
  have hfirst := b.toNat_first
  have hlast := b.toNat_last
  refine ⟨_, _, b.bounds?_eq, hfirst, hlast, ?_, ?_, ?_⟩
  · intro x hf
    have hspan := (Block.has_iff (b := b) (x := x)).symm.trans Block.has_iff_bit
    rw [BitVec.le_def, BitVec.le_def, hfirst, hlast, x.toNat_word]
    simpa [hf] using hspan
  · intro m start' last' hf hbounds
    obtain ⟨rfl, rfl⟩ := Prod.mk.inj (Option.some.inj (m.bounds?_eq.symm.trans hbounds))
    simp only [← BitVec.toNat_inj, BitVec.le_def, BitVec.lt_def, hfirst, hlast, m.toNat_first,
      m.toNat_last]
    exact ⟨Block.eq_or_apart hf, Block.starts_in_iff hf⟩
  · intro f k hk hlength
    rw [hfirst]
    refine ⟨?_, ?_, ?_⟩
    · intro x hfound
      exact covers_of_candidate hk hlength hfound
    · intro hnone x hx
      exact not_covers_of_no_candidate hk hlength hnone hx
    · intro x hx y hy hcx hcy
      obtain ⟨-, hlx⟩ := network_of_mem hk hx
      obtain ⟨-, hly⟩ := network_of_mem hk hy
      exact Network.eq_of_has (hcx _ b.has_first) (hcy _ b.has_first) (hlx.trans hly.symm)

theorem bounds_delimit_eight : ∃ start last start' last',
    bounds? (.ofNat .v4 0x29020304) 8 = some (start, last) ∧
    start.toNat = 0x29000000 ∧ last.toNat = 0x29ffffff ∧
    bounds? (.ofNat .v4 0x28000000) 6 = some (start', last') ∧ start' ≤ start ∧ last ≤ last' ∧
    bounds? (.ofNat .v6 0) 0 = some (0, .allOnes 128) := by
  let b : Block := ⟨.ofNat .v4 0x29020304, 8, by decide⟩
  let m : Block := ⟨.ofNat .v4 0x28000000, 6, by decide⟩
  let whole : Block := ⟨.ofNat .v6 0, 0, by decide⟩
  have hb : (b.first, b.last) = (0x29000000, 0x29ffffff) := by decide +kernel
  have hm : (m.first, m.last) = (0x28000000, 0x2bffffff) := by decide +kernel
  have hwhole : (whole.first, whole.last) = (0, 2 ^ 128 - 1) := by decide +kernel
  obtain ⟨start, last, hbounds, hfirst, hlast, -, hnested, -⟩ := bounds_delimit.2 b
  obtain ⟨start', last', hbounds', hfirst', hlast', -⟩ := bounds_delimit.2 m
  obtain ⟨zero, ones, hbounds'', hzero, hones, -⟩ := bounds_delimit.2 whole
  simp only [Prod.mk.injEq] at hb hm hwhole
  have hstart : start' ≤ start ∧ start ≤ last' := by
    rw [BitVec.le_def, BitVec.le_def]
    omega
  obtain ⟨hlow, hhigh⟩ := ((hnested m start' last' rfl hbounds').2 (by decide)).1 hstart
  have hzero' : zero = 0 := BitVec.eq_of_toNat_eq (hzero.trans hwhole.1)
  have hones' : ones = .allOnes 128 := BitVec.eq_of_toNat_eq (hones.trans hwhole.2)
  exact ⟨start, last, start', last', hbounds, hfirst.trans hb.1, hlast.trans hb.2, hbounds', hlow,
    hhigh, hzero' ▸ hones' ▸ hbounds''⟩

end Networks

end Registry

end RdapDirectory
