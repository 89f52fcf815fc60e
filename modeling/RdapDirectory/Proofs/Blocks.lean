import Mathlib
import RdapDirectory.Ip.Network

namespace RdapDirectory.Ip

namespace Block

def Has (b : Block) (x : Address) : Prop :=
  x.family = b.family ∧
    ∀ i, b.family.width - b.length ≤ i → x.value.testBit i = b.address.value.testBit i

def Covers (m b : Block) : Prop := ∀ x, b.Has x → m.Has x

theorem size_eq (b : Block) : b.size = 2 ^ (b.family.width - b.length) := rfl

theorem size_pos (b : Block) : 0 < b.size := Nat.two_pow_pos _

theorem first_eq (b : Block) : b.first = b.size * (b.address.value / b.size) := by
  have := Nat.div_add_mod b.address.value b.size
  unfold first
  omega

theorem has_iff_div {b : Block} {x : Address} :
    b.Has x ↔ x.family = b.family ∧ x.value / b.size = b.address.value / b.size := by
  have hbit : ∀ n k, (n / b.size).testBit k =
      n.testBit (b.family.width - b.length + k) := fun n k => by
    rw [size_eq, Nat.testBit_div_two_pow, Nat.add_comm]
  constructor
  · rintro ⟨hf, hbits⟩
    refine ⟨hf, Nat.eq_of_testBit_eq fun k => ?_⟩
    rw [hbit, hbit]
    exact hbits _ (Nat.le_add_right _ _)
  · rintro ⟨hf, hdiv⟩
    refine ⟨hf, fun i hi => ?_⟩
    obtain ⟨k, rfl⟩ := Nat.exists_eq_add_of_le hi
    rw [← hbit, ← hbit, hdiv]

theorem has_iff {b : Block} {x : Address} :
    b.Has x ↔ x.family = b.family ∧ b.first ≤ x.value ∧ x.value ≤ b.last := by
  have hpos := b.size_pos
  have hdiv : x.value / b.size = b.address.value / b.size ↔
      b.first ≤ x.value ∧ x.value ≤ b.last := by
    rw [last, first_eq, Nat.div_eq_iff hpos, Nat.mul_comm b.size]
    omega
  rw [has_iff_div, hdiv]

theorem last_lt (b : Block) : b.last < 2 ^ b.family.width := by
  have hpos := b.size_pos
  have hfits : b.address.value < 2 ^ b.family.width := b.address.fits
  have hlength : b.length ≤ b.family.width := b.length_le
  have hsplit : 2 ^ b.family.width = b.size * 2 ^ b.length := by
    rw [size_eq, ← Nat.pow_add, Nat.sub_add_cancel hlength]
  have hlt : b.address.value / b.size < 2 ^ b.length :=
    Nat.div_lt_of_lt_mul (hsplit ▸ hfits)
  have hle : b.size * (b.address.value / b.size + 1) ≤ b.size * 2 ^ b.length :=
    Nat.mul_le_mul_left _ hlt
  rw [Nat.mul_add, ← first_eq, Nat.mul_one, ← hsplit] at hle
  unfold last
  omega

theorem has_first (b : Block) : b.Has b.truncate.address := by
  refine has_iff.2 ⟨rfl, le_refl _, ?_⟩
  exact Nat.le_add_right _ _

theorem has_last (b : Block) : b.Has ⟨b.family, b.last, b.last_lt⟩ :=
  has_iff.2 ⟨rfl, Nat.le_add_right _ _, le_refl _⟩

theorem covers_iff {m b : Block} : m.Covers b ↔
    m.family = b.family ∧ m.length ≤ b.length ∧ m.first ≤ b.first ∧ b.first ≤ m.last := by
  constructor
  · intro h
    obtain ⟨hf, hlow, hhigh⟩ := has_iff.1 (h _ b.has_first)
    obtain ⟨-, -, hend⟩ := has_iff.1 (h _ b.has_last)
    have hfamily : m.family = b.family := hf.symm
    refine ⟨hfamily, ?_, hlow, hhigh⟩
    have hsize : b.size ≤ m.size := by
      have := m.size_pos
      have : b.first + (b.size - 1) ≤ m.first + (m.size - 1) := hend
      have : m.first ≤ b.first := hlow
      omega
    rw [size_eq, size_eq, hfamily, Nat.pow_le_pow_iff_right (by decide)] at hsize
    have hb := b.length_le
    have hm : m.length ≤ b.family.width := hfamily ▸ m.length_le
    have : b.length ≤ b.family.width := hb
    omega
  · rintro ⟨hf, hlength, hlow, hhigh⟩ x ⟨hfx, hx⟩
    -- All agree with the first address of `b`, and that agrees with `m` on fewer bits.
    obtain ⟨-, hfirst⟩ : m.Has b.truncate.address := has_iff.2 ⟨hf.symm, hlow, hhigh⟩
    refine ⟨hfx.trans hf.symm, fun i hi => ?_⟩
    have hi' : b.family.width - b.length ≤ i := by
      rw [hf] at hi
      omega
    rw [hx i hi', ← hfirst i hi, b.has_first.2 i hi']

end Block

namespace Network

theorem first_eq (m : Network) : m.first = m.address.value :=
  congrArg (fun b : Block => b.address.value) m.lowest

theorem eq_of_has {m n : Network} {x : Address} (hm : m.Has x) (hn : n.Has x)
    (h : m.length = n.length) : m = n := by
  obtain ⟨hfm, hdm⟩ := Block.has_iff_div.1 hm
  obtain ⟨hfn, hdn⟩ := Block.has_iff_div.1 hn
  have hf : m.family = n.family := hfm.symm.trans hfn
  have hsize : m.size = n.size := by rw [Block.size_eq, Block.size_eq, hf, h]
  have hvalue : m.address.value = n.address.value := by
    rw [← m.first_eq, ← n.first_eq, Block.first_eq, Block.first_eq, ← hdm, ← hdn, hsize]
  obtain ⟨⟨⟨fm, vm, _⟩, lm, _⟩, _⟩ := m
  obtain ⟨⟨⟨fn, vn, _⟩, ln, _⟩, _⟩ := n
  obtain rfl : fm = fn := hf
  obtain rfl : lm = ln := h
  obtain rfl : vm = vn := hvalue
  rfl

end Network

end RdapDirectory.Ip
