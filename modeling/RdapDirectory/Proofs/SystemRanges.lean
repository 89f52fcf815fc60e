import RdapDirectory.Proofs.Answers
import RdapDirectory.Proofs.OctetOrder
import RdapDirectory.Proofs.SearchRows

/-!
Ranges of AS numbers: which texts are numbers and which keys are ranges, and that the search by
upper bounds finds the first range that holds a number.
-/

namespace RdapDirectory

namespace Registry

open Text

namespace Range

theorem hyphen_not_mem {cs : List Char} {n : Nat} (h : bound? cs = some n) : '-' ∉ cs := by
  intro hc
  rcases mem_of_unsigned? h '-' (mem_strip hc (by decide)) with he | hd
  · cases he
  · exact absurd hd (by decide)

inductive Spells : List Char → Nat → Nat → Prop
  | one {cs : List Char} {n : Nat} (h : bound? cs = some n) : Spells cs n n
  | two {cs ds : List Char} {m n : Nat} (hm : bound? cs = some m) (hn : bound? ds = some n) :
    Spells (cs ++ '-' :: ds) (min m n) (max m n)

theorem Spells.le {cs : List Char} {low high : Nat} (h : Spells cs low high) : low ≤ high := by
  cases h with
  | one => exact le_refl _
  | two => exact min_le_max

theorem between_eq (m n : Nat) (urls : List Url) :
    between m n urls = ⟨min m n, max m n, urls, min_le_max⟩ := by
  unfold between
  split
  · rename_i h
    simp only [min_eq_left h, max_eq_right h]
  · rename_i h
    simp only [min_eq_right (not_le.1 h).le, max_eq_left (not_le.1 h).le]

theorem ofItem?_eq_some {i : Item} {r : Range} :
    ofItem? i = some r ↔ Spells i.1.toList r.low r.high ∧ r.urls = i.2 := by
  constructor
  · intro h
    unfold ofItem? at h
    split at h
    · rename_i cs ds hcut
      obtain ⟨m, hm, h⟩ := Option.bind_eq_some_iff.1 h
      obtain ⟨n, hn, h⟩ := Option.bind_eq_some_iff.1 h
      cases h
      rw [(cut?_eq_some_iff.1 hcut).2, between_eq]
      exact ⟨.two hm hn, rfl⟩
    · obtain ⟨n, hn, rfl⟩ := Option.map_eq_some_iff.1 h
      rw [between_eq]
      simp only [min_self, max_self, and_true]
      exact .one hn
  · rintro ⟨h, hurls⟩
    obtain ⟨low, high, urls, hle⟩ := r
    obtain rfl : urls = i.2 := hurls
    dsimp only at h
    generalize hkey : i.1.toList = key at h
    unfold ofItem?
    rw [hkey]
    cases h with
    | one hn =>
      have hcut : cut? (· == '-') key = none := cut?_eq_none_iff.2 (hyphen_not_mem hn)
      simp only [hcut, hn, Option.map_some, between_eq, min_self, max_self]
    | two hm hn =>
      rename_i cs ds m n
      have hcut : cut? (· == '-') (cs ++ '-' :: ds) = some (cs, ds) :=
        cut?_eq_some_iff.2 ⟨hyphen_not_mem hm, rfl⟩
      simp only [hcut, hm, hn, between_eq]
      rfl

end Range

namespace Systems

def Numbers (query : String) (n : Nat) : Prop :=
  ∃ letters digits, letters ∈ ["", "as", "aS", "As", "AS"] ∧
    query.toList = letters.toList ++ digits ∧
    digits ≠ [] ∧ (∀ c ∈ digits, isDigit c = true) ∧ decimalValue digits = n ∧ n < 2 ^ 32

theorem exists_letters (cs : List Char) :
    ∃ letters ∈ ["", "as", "aS", "As", "AS"], cs = letters.toList ++ numeral cs := by
  unfold numeral
  split
  · exact ⟨"as", by decide, rfl⟩
  · exact ⟨"aS", by decide, rfl⟩
  · exact ⟨"As", by decide, rfl⟩
  · exact ⟨"AS", by decide, rfl⟩
  · exact ⟨"", by decide, rfl⟩

theorem numeral_of_digits {cs : List Char} (h : ∀ c ∈ cs, isDigit c = true) : numeral cs = cs := by
  unfold numeral
  split
  case h_5 => rfl
  all_goals exact absurd (h _ List.mem_cons_self) (by decide)

theorem numeral_append {letters : String} {digits : List Char}
    (hl : letters ∈ ["", "as", "aS", "As", "AS"]) (hd : ∀ c ∈ digits, isDigit c = true) :
    numeral (letters.toList ++ digits) = digits := by
  simp only [List.mem_cons, List.not_mem_nil, or_false] at hl
  rcases hl with rfl | rfl | rfl | rfl | rfl
  · exact numeral_of_digits hd
  all_goals rfl

theorem numbers_iff {query : String} {n : Nat} :
    Numbers query n ↔ decimal? (numeral query.toList) = some n ∧ n < 2 ^ 32 := by
  rw [decimal?_eq_some]
  constructor
  · rintro ⟨letters, digits, hl, hquery, hne, hd, hvalue, hn⟩
    rw [hquery, numeral_append hl hd]
    exact ⟨⟨hne, hd, hvalue⟩, hn⟩
  · rintro ⟨⟨hne, hd, hvalue⟩, hn⟩
    obtain ⟨letters, hl, hquery⟩ := exists_letters query.toList
    exact ⟨letters, _, hl, hquery, hne, hd, hvalue, hn⟩

theorem number?_of_numbers {query : String} {n : Nat} (h : Numbers query n) :
    ∃ hn : n < systemLimit, number? query = .ok ⟨n, hn⟩ := by
  obtain ⟨hvalue, hn⟩ := numbers_iff.1 h
  refine ⟨hn, ?_⟩
  unfold number?
  rw [hvalue]
  exact dif_pos hn

theorem number?_of_not_numbers {query : String} (h : ∀ n, ¬ Numbers query n) :
    ∃ reason, number? query = .error (.invalidQuery query reason) := by
  unfold number?
  cases hvalue : decimal? (numeral query.toList) with
  | none => exact ⟨_, rfl⟩
  | some n =>
    have hlimit : ¬ n < systemLimit := fun hn => h n (numbers_iff.2 ⟨hvalue, hn⟩)
    exact ⟨_, dif_neg hlimit⟩

def Holds (i : Item) (n : Nat) : Prop :=
  ∃ low high, Range.Spells i.1.toList low high ∧ low ≤ n ∧ n ≤ high

/-- The item that decides on a number: of all that hold it, the one whose range starts first, and
of several that start there the one with the least key. -/
structure Decides (f : File) (n : Nat) (i : Item) (low high : Nat) : Prop where
  mem : i ∈ f.entries.items
  spells : Range.Spells i.1.toList low high
  low_le : low ≤ n
  le_high : n ≤ high
  least : ∀ j ∈ f.entries.items, ∀ low' high', Range.Spells j.1.toList low' high' → low' ≤ n →
    n ≤ high' → low < low' ∨ low = low' ∧ octetsOf i.1.toList ≤ octetsOf j.1.toList

/-- The upper bounds below a number stand in front of all others. -/
def Parted (s : Systems) (n : Nat) : Prop :=
  ∃ front back, s.ranges.toList = front ++ back ∧ (∀ r ∈ front, r.high < n) ∧
    ∀ r ∈ back, n ≤ r.high

theorem ranges_ofFile (f : File) : (ofFile f).ranges.toList =
    (rowOf Range.ofItem? Range.low f.entries.items).map Prod.snd := by
  rw [map_snd_rowOf]
  rfl

theorem ranges_sorted (f : File) : (ofFile f).ranges.toList.Pairwise (·.low ≤ ·.low) := by
  rw [ranges_ofFile, List.pairwise_map]
  exact (pairwise_rowOf Range.ofItem? Range.low f.entries).imp And.left

def found (back : List (Item × Range)) (n : Nat) : Option (Item × Range) :=
  back.head?.filter (·.2.low ≤ n)

def answer (n : Nat) : Option (Item × Range) → Answer
  | some (_, r) => ⟨systemText n, r.text, r.urls⟩
  | none => .noMatch (systemText n)

section Parted

variable {f : File} {n : Nat} {front back : List (Item × Range)}
  (hrow : rowOf Range.ofItem? Range.low f.entries.items = front ++ back)
  (hfront : ∀ x ∈ front, x.2.high < n) (hback : ∀ x ∈ back, n ≤ x.2.high)

include hrow hfront

theorem mem_back {j : Item} (hj : j ∈ f.entries.items) {low high : Nat}
    (h : Range.Spells j.1.toList low high) (hhigh : n ≤ high) :
    (j, ⟨low, high, j.2, h.le⟩) ∈ back := by
  have hrange : Range.ofItem? j = some ⟨low, high, j.2, h.le⟩ := Range.ofItem?_eq_some.2 ⟨h, rfl⟩
  have hmem := (mem_rowOf Range.ofItem? Range.low).2 ⟨hj, hrange⟩
  rw [hrow, List.mem_append] at hmem
  rcases hmem with hmem | hmem
  · exact absurd (hfront _ hmem) (not_lt.2 hhigh)
  · exact hmem

theorem not_holds_of_not_found (h : found back n = none) :
    ∀ j ∈ f.entries.items, ¬ Holds j n := by
  rintro j hj ⟨low, high, hspells, hlow, hhigh⟩
  have hmem := mem_back hrow hfront hj hspells hhigh
  cases back with
  | nil => cases hmem
  | cons x rest =>
    have hfirst : n < x.2.low := by simpa [found] using h
    rcases List.mem_cons.1 hmem with rfl | hmem
    · exact absurd hlow (not_le.2 hfirst)
    · have hsorted := pairwise_rowOf Range.ofItem? Range.low f.entries
      rw [hrow] at hsorted
      have hle := (List.pairwise_cons.1 (List.pairwise_append.1 hsorted).2.1).1 _ hmem
      exact absurd (hle.1.trans hlow) (not_le.2 hfirst)

include hback

theorem decides_of_found {i : Item} {r : Range} (h : found back n = some (i, r)) :
    r.urls = i.2 ∧ Decides f n i r.low r.high := by
  obtain ⟨hhead, hlow⟩ := Option.filter_eq_some_iff.1 h
  obtain ⟨rest, rfl⟩ : ∃ rest, back = (i, r) :: rest := by
    cases back with
    | nil => cases hhead
    | cons x rest => exact ⟨rest, by rw [Option.some.inj hhead]⟩
  have hmem : (i, r) ∈ rowOf Range.ofItem? Range.low f.entries.items := by simp [hrow]
  obtain ⟨hi, hr⟩ := (mem_rowOf Range.ofItem? Range.low).1 hmem
  obtain ⟨hspells, hurls⟩ := Range.ofItem?_eq_some.1 hr
  refine ⟨hurls, hi, hspells, of_decide_eq_true hlow, hback _ List.mem_cons_self, ?_⟩
  intro j hj low high hj' _ hhigh
  rcases List.mem_cons.1 (mem_back hrow hfront hj hj' hhigh) with he | hlater
  · obtain ⟨rfl, rfl⟩ := Prod.mk.inj he
    exact .inr ⟨rfl, octetsOf_le_iff.2 (le_refl _)⟩
  · have hsorted := pairwise_rowOf Range.ofItem? Range.low f.entries
    rw [hrow] at hsorted
    obtain ⟨hle, hkey⟩ := (List.pairwise_cons.1 (List.pairwise_append.1 hsorted).2.1).1 _ hlater
    rcases Nat.eq_or_lt_of_le hle with he | hlt
    · exact .inr ⟨he, octetsOf_le_iff.2 (hkey he).le⟩
    · exact .inl hlt

end Parted

theorem lookup_parted {f : File} {query : String} {n : SystemNumber} (hn : number? query = .ok n)
    {front back : List (Item × Range)}
    (hrow : rowOf Range.ofItem? Range.low f.entries.items = front ++ back)
    (hfront : ∀ x ∈ front, x.2.high < n.val) (hback : ∀ x ∈ back, n.val ≤ x.2.high) :
    (ofFile f).lookup query = .ok (answer n (found back n)) := by
  have hranges : (ofFile f).ranges = ((front ++ back).map Prod.snd).toArray := by
    rw [← hrow, ← ranges_ofFile]
  have hcount : countFront (·.high < n.val) (ofFile f).ranges = front.length := by
    rw [hranges]
    exact countFront_map (fun x hx => decide_eq_true (hfront x hx))
      fun x hx => decide_eq_false (not_lt.2 (hback x hx))
  have hget : (ofFile f).ranges[front.length]? = back.head?.map Prod.snd := by
    rw [hranges, List.getElem?_toArray, List.getElem?_map,
      List.getElem?_append_right (le_refl _), Nat.sub_self, List.head?_eq_getElem?]
  unfold lookup
  simp only [hn, hcount, hget, bind, Except.bind]
  cases back with
  | nil => rfl
  | cons x rest =>
    by_cases hlow : x.2.low ≤ n.val <;>
      simp [found, answer, hlow, Option.filter, pure, Except.pure]

theorem exists_rows {f : File} {n : Nat} (h : (ofFile f).Parted n) :
    ∃ front back, rowOf Range.ofItem? Range.low f.entries.items = front ++ back ∧
      (∀ x ∈ front, x.2.high < n) ∧ ∀ x ∈ back, n ≤ x.2.high := by
  obtain ⟨front, back, hranges, hfront, hback⟩ := h
  rw [ranges_ofFile] at hranges
  obtain ⟨front', back', hrow, rfl, rfl⟩ := List.map_eq_append_iff.1 hranges
  exact ⟨front', back', hrow, fun x hx => hfront x.2 (List.mem_map_of_mem hx),
    fun x hx => hback x.2 (List.mem_map_of_mem hx)⟩

theorem isMatch_text (r : Range) (query : String) (urls : List Url) :
    (Answer.mk query r.text urls).isMatch = true := by
  have hne : r.text ≠ "" := by
    unfold Range.text
    split <;> simp [← String.toList_inj]
  simp [Answer.isMatch, hne]

theorem parted_of_rising {f : File} (h : ∀ r ∈ (ofFile f).ranges.toList,
    ∀ t ∈ (ofFile f).ranges.toList, r.low ≤ t.low → r.high ≤ t.high) (n : Nat) :
    (ofFile f).Parted n := by
  have hsorted : (ofFile f).ranges.toList.Pairwise (·.high ≤ ·.high) :=
    (ranges_sorted f).imp_of_mem fun hr ht hle => h _ hr _ ht hle
  exact exists_parting Range.high n hsorted

theorem lookup_numbers {bytes : List UInt8} {s : Systems} (h : Systems.read bytes = .ok s) :
    (s.ranges.toList.Pairwise (·.low ≤ ·.low) ∧ ∀ r ∈ s.ranges, r.low ≤ r.high) ∧
    ∀ query : String,
      ((∀ n, ¬ Numbers query n) → ∃ reason, s.lookup query = .error (.invalidQuery query reason)) ∧
      ∀ n, Numbers query n → ∃ a, s.lookup query = .ok a ∧ a.query = toString n ∧
        (s.Parted n →
          (a.isMatch = true ↔ ∃ i ∈ s.file.entries.items, Holds i n) ∧
          (a.isMatch = true → ∃ i low high, Decides s.file n i low high ∧ a.urls = i.2 ∧
            a.entry = if low = high then "AS" ++ toString low
              else "AS" ++ toString low ++ "-AS" ++ toString high)) := by
  obtain ⟨f, hf, rfl⟩ := exists_of_map h
  refine ⟨⟨ranges_sorted f, fun r _ => r.low_le_high⟩, fun query => ⟨fun hq => ?_, ?_⟩⟩
  · obtain ⟨reason, hnumber⟩ := number?_of_not_numbers hq
    refine ⟨reason, ?_⟩
    unfold lookup
    rw [hnumber]
    rfl
  · intro n hq
    obtain ⟨hlimit, hnumber⟩ := number?_of_numbers hq
    obtain ⟨a, ha⟩ := exists_lookup (ofFile f) hnumber
    refine ⟨a, ha, ?_, fun hparted => ?_⟩
    · obtain ⟨-, m, hm, hquery⟩ := lookup_tells ha
      obtain rfl := Except.ok.inj (hnumber.symm.trans hm)
      exact hquery
    · obtain ⟨front, back, hrow, hfront, hback⟩ := exists_rows hparted
      obtain rfl := Except.ok.inj (ha.symm.trans (lookup_parted hnumber hrow hfront hback))
      cases hfound : found back n with
      | none =>
        have hnone := not_holds_of_not_found hrow hfront hfound
        refine ⟨⟨nofun, fun ⟨i, hi, hholds⟩ => absurd hholds (hnone i hi)⟩, nofun⟩
      | some x =>
        obtain ⟨i, r⟩ := x
        obtain ⟨hurls, hdecides⟩ := decides_of_found hrow hfront hback hfound
        refine ⟨⟨fun _ => ?_, fun _ => isMatch_text ..⟩, fun _ => ?_⟩
        · exact ⟨i, hdecides.mem, r.low, r.high, hdecides.spells, hdecides.low_le,
            hdecides.le_high⟩
        · exact ⟨i, r.low, r.high, hdecides, hurls, rfl⟩

def backwards : List UInt8 :=
  octetsOf "\x7b\"services\":[[[\"300-200\",\"50\"],[\"https://rdap.nic.cz/\"]]]\x7d".toList

theorem backwards_bounds {low high : Nat}
    (h : Range.Spells "300-200".toList low high ∨ Range.Spells "50".toList low high) :
    (low, high) = (200, 300) ∨ (low, high) = (50, 50) := by
  have hread : ∀ key : String, Range.Spells key.toList low high →
      (Range.ofItem? (key, [])).map (fun r => (r.low, r.high)) = some (low, high) := by
    intro key h
    have hrange : Range.ofItem? (key, []) = some ⟨low, high, [], h.le⟩ :=
      Range.ofItem?_eq_some.2 ⟨h, rfl⟩
    rw [hrange]
    rfl
  rcases h with h | h
  · have hpair : (Range.ofItem? ("300-200", [])).map (fun r => (r.low, r.high)) =
        some (200, 300) := by
      decide +kernel
    exact .inl (Option.some.inj ((hread _ h).symm.trans hpair))
  · have hpair : (Range.ofItem? ("50", [])).map (fun r => (r.low, r.high)) = some (50, 50) := by
      decide +kernel
    exact .inr (Option.some.inj ((hread _ h).symm.trans hpair))

theorem backwards_lookup : ∃ s a, Systems.read backwards = .ok s ∧ Numbers "As0250" 250 ∧
    s.Parted 250 ∧ s.lookup "As0250" = .ok a ∧ a.query = "250" ∧ a.entry = "AS200-AS300" := by
  have hkeys : (Systems.read backwards).map (fun s => s.file.entries.keys) =
      .ok ["300-200", "50"] := by
    decide +kernel
  obtain ⟨s, hs, hkeys⟩ := exists_of_map hkeys
  have hbounds : ∀ i ∈ s.file.entries.items, ∀ low high, Range.Spells i.1.toList low high →
      (low, high) = (200, 300) ∨ (low, high) = (50, 50) := by
    intro i hi low high h
    have hkey : i.1 ∈ s.file.entries.keys := List.mem_map_of_mem hi
    rw [hkeys] at hkey
    simp only [List.mem_cons, List.not_mem_nil, or_false] at hkey
    apply backwards_bounds
    rcases hkey with hkey | hkey
    · exact .inl (hkey ▸ h)
    · exact .inr (hkey ▸ h)
  have hnumbers : Numbers "As0250" 250 := by
    refine numbers_iff.2 ⟨?_, by decide⟩
    decide +kernel
  have hparted : s.Parted 250 := by
    obtain ⟨f, -, rfl⟩ := exists_of_map hs
    refine parted_of_rising (fun r hr t ht hle => ?_) 250
    rw [ranges_ofFile, List.mem_map] at hr ht
    obtain ⟨x, hx, rfl⟩ := hr
    obtain ⟨y, hy, rfl⟩ := ht
    obtain ⟨hi, hrange⟩ := (mem_rowOf ..).1 hx
    obtain ⟨hj, hrange'⟩ := (mem_rowOf ..).1 hy
    rcases hbounds _ hi _ _ (Range.ofItem?_eq_some.1 hrange).1 with he | he <;>
      rcases hbounds _ hj _ _ (Range.ofItem?_eq_some.1 hrange').1 with he' | he' <;>
      simp only [Prod.mk.injEq] at he he' <;> omega
  obtain ⟨a, ha, hquery, hfound⟩ := ((lookup_numbers hs).2 "As0250").2 250 hnumbers
  obtain ⟨hmatch, hentry⟩ := hfound hparted
  have hkey : "300-200" ∈ s.file.entries.keys := by simp [hkeys]
  obtain ⟨i, hi, hkey⟩ := List.mem_map.1 hkey
  have hspells : Range.Spells i.1.toList 200 300 := by
    have htext : i.1.toList = "300".toList ++ '-' :: "200".toList := by
      rw [hkey]
      decide +kernel
    have hm : Range.bound? "300".toList = some 300 := by decide +kernel
    have hn : Range.bound? "200".toList = some 200 := by decide +kernel
    exact htext ▸ .two hm hn
  obtain ⟨j, low, high, hdecides, -, htext⟩ :=
    hentry (hmatch.2 ⟨i, hi, 200, 300, hspells, by decide, by decide⟩)
  have hhigh := hdecides.le_high
  rcases hbounds j hdecides.mem low high hdecides.spells with he | he
  · obtain ⟨rfl, rfl⟩ := Prod.mk.inj he
    exact ⟨s, a, hs, hnumbers, hparted, ha, hquery, htext⟩
  · obtain ⟨-, rfl⟩ := Prod.mk.inj he
    exact absurd hhigh (by decide)

end Systems

end Registry

end RdapDirectory
