import RdapDirectory.Text.LetterCase

namespace RdapDirectory.Text

namespace CapitalRun

def just (n : Nat) : CapitalRun := ⟨n, n, 1, 0⟩

def image (r : CapitalRun) : CapitalRun :=
  ⟨(r.first + r.shift).toNat, (r.last + r.shift).toNat, r.step, 0⟩

/-- Whether two runs overlap, other than with every second number each. -/
def meets (r s : CapitalRun) : Bool :=
  s.first.ble r.last && r.first.ble s.last &&
    !((r.step.beq 2 || r.first.beq r.last) && s.step.beq 2 && ((r.first + s.first) % 2).beq 1)

theorem holds_iff {r : CapitalRun} {n : Nat} :
    r.holds n = true ↔ r.first ≤ n ∧ n ≤ r.last ∧ (n - r.first) % r.step = 0 := by
  simp only [holds, Bool.and_eq_true, decide_eq_true_eq, beq_iff_eq, and_assoc]

theorem not_holds_of_meets {r s : CapitalRun} (h : r.meets s = false) {n : Nat}
    (hn : r.holds n = true) : s.holds n = false := by
  rw [Bool.eq_false_iff]
  intro hs
  obtain ⟨hfirst, hlast, hstep⟩ := holds_iff.1 hn
  obtain ⟨hfirst', hlast', hstep'⟩ := holds_iff.1 hs
  have hodd : ¬ ((r.step = 2 ∨ r.first = r.last) ∧ s.step = 2 ∧ (r.first + s.first) % 2 = 1) := by
    rintro ⟨hr, hs, hsum⟩
    rw [hs] at hstep'
    rcases hr with hr | hr
    · rw [hr] at hstep
      omega
    · omega
  have hmeets : r.meets s = true := by
    simp only [meets, Bool.and_eq_true, Nat.ble_eq, Bool.not_eq_true', Bool.eq_false_iff, ne_eq,
      Bool.or_eq_true, Nat.beq_eq, and_assoc]
    exact ⟨by omega, by omega, hodd⟩
  cases h.symm.trans hmeets

theorem holds_image {r : CapitalRun} (hr : 0 ≤ r.first + r.shift) {n : Nat}
    (hn : r.holds n = true) : r.image.holds (n + r.shift).toNat = true := by
  obtain ⟨hfirst, hlast, hstep⟩ := holds_iff.1 hn
  have hsame : (n + r.shift).toNat - (r.first + r.shift).toNat = n - r.first := by omega
  refine holds_iff.2 ⟨?_, ?_, ?_⟩
  · simp only [image]
    omega
  · simp only [image]
    omega
  · simp only [image, hsame, hstep]

end CapitalRun

open CapitalRun (just)

def notSmall : List CapitalRun := just 0x2E :: just 0x130 :: capitalRuns

theorem image_apart : (capitalRuns.map CapitalRun.image).all (fun r =>
    notSmall.all fun s => !r.meets s) = true := by
  decide +kernel

theorem shift_le : ∀ r ∈ capitalRuns, 0 ≤ r.first + r.shift := by
  decide +kernel

theorem zero_not_held : ∀ s ∈ notSmall, s.holds 0 = false := by
  decide +kernel

theorem special_not_held : ∀ n ∈ ['σ', 'ς', 'i', '\u0307'].map Char.toNat, ∀ s ∈ notSmall,
    s.holds n = false := by
  decide +kernel

theorem toNat_ofNat (n : Nat) : (Char.ofNat n).toNat = n ∨ (Char.ofNat n).toNat = 0 := by
  by_cases h : n.isValidChar
  · left
    rw [Char.ofNat, dif_pos h]
    rfl
  · right
    rw [Char.ofNat, dif_neg h]
    rfl

theorem shifted_not_held {r : CapitalRun} (hr : r ∈ capitalRuns) {n : Nat}
    (hn : r.holds n = true) {s : CapitalRun} (hs : s ∈ notSmall) :
    s.holds (Char.ofNat (n + r.shift).toNat).toNat = false := by
  have happart := image_apart
  simp only [List.all_eq_true, Bool.not_eq_true'] at happart
  have hmeets := happart _ (List.mem_map_of_mem hr) s hs
  rcases toNat_ofNat (n + r.shift).toNat with h | h <;> rw [h]
  · exact CapitalRun.not_holds_of_meets hmeets (CapitalRun.holds_image (shift_le r hr) hn)
  · exact zero_not_held s hs

def IsSmall (c : Char) : Prop := c ≠ 'Σ' ∧ c ≠ 'İ' ∧ smallLetter c = c

theorem isSmall_of_not_held {c : Char} (h : ∀ s ∈ notSmall, s.holds c.toNat = false) :
    c ≠ '.' ∧ IsSmall c := by
  have hfind : capitalRuns.find? (·.holds c.toNat) = none := by
    rw [List.find?_eq_none]
    intro s hs
    rw [h s (by simp [notSmall, hs])]
    decide
  have hsigma : ∃ s ∈ notSmall, s.holds 'Σ'.toNat = true := by decide +kernel
  have hdotted : ∃ s ∈ notSmall, s.holds 'İ'.toNat = true := by decide +kernel
  have hdot : ∃ s ∈ notSmall, s.holds '.'.toNat = true := by decide +kernel
  have hlower : ∀ n < 0x80, (∀ s ∈ notSmall, s.holds n = false) →
      (Char.ofNat n).toLower = .ofNat n := by
    decide +kernel
  have hne : ∀ d : Char, (∃ s ∈ notSmall, s.holds d.toNat = true) → c ≠ d := by
    rintro d ⟨s, hs, hd⟩ rfl
    rw [h s hs] at hd
    cases hd
  refine ⟨hne _ hdot, hne _ hsigma, hne _ hdotted, ?_⟩
  unfold smallLetter
  rw [hfind]
  split
  · rename_i hc
    simpa only [Char.ofNat_toNat] using hlower c.toNat hc h
  · rfl

theorem smallLetter_of_high {c : Char} (h : ¬ c.toNat < 0x80) : smallLetter c = c ∨
    ∃ r ∈ capitalRuns, r.holds c.toNat = true ∧
      smallLetter c = .ofNat (c.toNat + r.shift).toNat := by
  unfold smallLetter
  rw [if_neg h]
  cases hr : capitalRuns.find? (·.holds c.toNat) with
  | none => exact .inl rfl
  | some r => exact .inr ⟨r, List.mem_of_find?_eq_some hr, by simpa using List.find?_some hr, rfl⟩

theorem smallLetter_spec {c : Char} (hsigma : c ≠ 'Σ') (hdotted : c ≠ 'İ') :
    IsSmall (smallLetter c) ∧ (smallLetter c = '.' → c = '.') := by
  by_cases hc : c.toNat < 0x80
  · have hall : ∀ n < 0x80, IsSmall (Char.ofNat n).toLower ∧
        ((Char.ofNat n).toLower = '.' → Char.ofNat n = '.') := by
      unfold IsSmall
      decide +kernel
    unfold smallLetter
    rw [if_pos hc]
    simpa only [Char.ofNat_toNat] using hall c.toNat hc
  · rcases smallLetter_of_high hc with hsmall | ⟨r, hr, hheld, hsmall⟩
    · rw [hsmall]
      exact ⟨⟨hsigma, hdotted, hsmall⟩, id⟩
    · obtain ⟨hdot, h⟩ := isSmall_of_not_held fun s hs => shifted_not_held hr hheld hs
      rw [hsmall]
      exact ⟨h, fun he => absurd he hdot⟩

theorem lowerFrom_cons (follows : Bool) (c : Char) (r : List Char) : ∃ small follows',
    lowerFrom follows (c :: r) = small ++ lowerFrom follows' r ∧ small ≠ [] ∧
      (∀ d ∈ small, IsSmall d) ∧ ('.' ∈ small → c = '.') := by
  have hfixed : ∀ d ∈ ['σ', 'ς', 'i', '\u0307'], IsSmall d := fun d hd =>
    (isSmall_of_not_held (special_not_held d.toNat (List.mem_map_of_mem hd))).2
  refine ⟨_, _, rfl, ?_⟩
  split
  · split
    · exact ⟨nofun, by simpa using hfixed 'ς', fun h => absurd h (by decide)⟩
    · exact ⟨nofun, by simpa using hfixed 'σ', fun h => absurd h (by decide)⟩
  · split
    · exact ⟨nofun, fun d hd => hfixed d (by simp at hd; simp [hd]), fun h => absurd h (by decide)⟩
    · rename_i hs hi
      obtain ⟨h, hdot⟩ := smallLetter_spec hs hi
      exact ⟨nofun, by simpa using h, by simpa using fun he => hdot he.symm⟩

theorem lowerFrom_small (follows : Bool) (cs : List Char) :
    ∀ c ∈ lowerFrom follows cs, IsSmall c := by
  induction cs generalizing follows with
  | nil => exact nofun
  | cons c r ih =>
    obtain ⟨small, follows', he, -, hsmall, -⟩ := lowerFrom_cons follows c r
    rw [he]
    exact List.forall_mem_append.2 ⟨hsmall, ih follows'⟩

theorem lowerFrom_eq_nil {follows : Bool} {cs : List Char} (h : lowerFrom follows cs = []) :
    cs = [] := by
  cases cs with
  | nil => rfl
  | cons c r =>
    obtain ⟨small, follows', he, hne, -⟩ := lowerFrom_cons follows c r
    exact absurd (List.append_eq_nil_iff.1 (he.symm.trans h)).1 hne

theorem lowerFrom_of_small {cs : List Char} (h : ∀ c ∈ cs, IsSmall c) (follows : Bool) :
    lowerFrom follows cs = cs := by
  induction cs generalizing follows with
  | nil => rfl
  | cons c r ih =>
    obtain ⟨⟨hs, hi, hc⟩, hr⟩ := List.forall_mem_cons.1 h
    simp only [lowerFrom, hs, hi, hc, if_false, ih hr, List.singleton_append]

theorem lower_lower (s : String) : lower (lower s) = lower s := by
  unfold lower
  rw [String.toList_ofList, lowerFrom_of_small (lowerFrom_small _ _)]

theorem getLast?_of_lowerFrom {follows : Bool} {cs : List Char}
    (h : (lowerFrom follows cs).getLast? = some '.') : cs.getLast? = some '.' := by
  induction cs generalizing follows with
  | nil => cases h
  | cons c r ih =>
    obtain ⟨small, follows', he, hne, -, hdot⟩ := lowerFrom_cons follows c r
    rw [he, List.getLast?_append] at h
    cases hlast : (lowerFrom follows' r).getLast? with
    | none =>
      rw [hlast, Option.none_or] at h
      rw [lowerFrom_eq_nil (List.getLast?_eq_none_iff.1 hlast), hdot (List.mem_of_getLast? h)]
      rfl
    | some d =>
      rw [hlast] at h
      cases h
      rw [List.getLast?_cons, ih hlast]
      rfl

end RdapDirectory.Text
