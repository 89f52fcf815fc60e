import RdapDirectory.Proofs.Answers
import RdapDirectory.Proofs.Blocks
import RdapDirectory.Proofs.OctetOrder
import RdapDirectory.Proofs.SearchRows

/-!
Networks: which texts ask for one, and that the walk from long to short networks finds the longest
that covers it.
-/

namespace RdapDirectory

open Text

namespace Registry

open Ip

namespace Networks

inductive Asks (query : String) : Block → Prop
  | address {a : Address} (h : Address.read? query.toList = some a) : Asks query (.single a)
  | network {as ls : List Char} {a : Address} {l : Nat} (hquery : query.toList = as ++ '/' :: ls)
    (ha : Address.read? as = some a) (hl : unsigned? 256 ls = some l) (hle : l ≤ a.family.width) :
    Asks query ⟨a, l, hle⟩

theorem asks_iff {query : String} {b : Block} :
    Asks query b ↔ ∃ text, written query = .ok text ∧ Block.read? text.toList = some b := by
  constructor
  · intro h
    cases h with
    | address h => exact ⟨_, written_of_address h, read?_full h⟩
    | @network as ls a l hquery ha hl hle =>
      have hread : Block.read? query.toList = some ⟨a, l, hle⟩ :=
        Block.read?_eq_some.2 ⟨as, ls, hquery, ha, hl⟩
      exact ⟨query, written_of_slash (slash_mem_of_read? hread), hread⟩
  · rintro ⟨text, hw, hb⟩
    unfold written at hw
    split at hw
    · obtain rfl := Except.ok.inj hw
      obtain ⟨as, ls, hquery, ha, hl⟩ := Block.read?_eq_some.1 hb
      exact .network hquery ha hl b.length_le
    · split at hw
      · rename_i a ha
        obtain rfl := Except.ok.inj hw
        obtain rfl := Option.some.inj (hb.symm.trans (read?_full ha))
        exact .address ha
      · cases hw

theorem lookup_unasked {n : Networks} {query : String} (h : ∀ b, ¬ Asks query b) :
    ∃ reason, n.lookup query = .error (.invalidQuery query reason) := by
  cases hw : written query with
  | error e =>
    have he : ∃ reason, e = .invalidQuery query reason := by
      unfold written at hw
      split at hw
      · cases hw
      · split at hw <;> cases hw
        exact ⟨_, rfl⟩
    obtain ⟨reason, rfl⟩ := he
    refine ⟨reason, ?_⟩
    unfold lookup
    rw [hw]
    rfl
  | ok text =>
    have hnone : Block.read? text.toList = none := by
      cases hb : Block.read? text.toList with
      | none => rfl
      | some b => exact absurd (asks_iff.2 ⟨text, hw, hb⟩) (h b)
    have hslash : '/' ∈ query.toList := by
      by_contra hfree
      unfold written at hw
      rw [if_neg (by simpa using hfree)] at hw
      split at hw
      · rename_i a ha
        exact h _ (.address ha)
      · cases hw
    obtain rfl := Except.ok.inj (hw.symm.trans (written_of_slash hslash))
    refine ⟨"invalid CIDR address", ?_⟩
    unfold lookup block?
    simp only [hw, hnone, bind, Except.bind]

theorem lookup_mismatch {n : Networks} {query : String} {b : Block} (h : Asks query b)
    (hf : b.family ≠ n.family) :
    n.lookup query = .error (.familyMismatch query n.family.number) := by
  obtain ⟨text, hw, hb⟩ := asks_iff.1 h
  unfold lookup block?
  simp only [hw, hb, bind, Except.bind, if_pos hf]
  rfl

theorem lookup_asked {n : Networks} {query : String} {b : Block} (h : Asks query b)
    (hf : b.family = n.family) : ∃ text, n.lookup query = .ok (answer text (n.covering? b)) := by
  obtain ⟨text, hw, hb⟩ := asks_iff.1 h
  exact ⟨text, lookup_eq hw hb hf⟩

def holding? (family : Family) (length : Nat) (i : Item) : Option Holding :=
  (Holding.ofItem? family i).filter (·.network.length = length)

section Buckets

variable {family : Family} {length place : Nat} {f : File}

def bucket (family : Family) (length : Nat) (f : File) : Bucket :=
  .ofHoldings (f.entries.items.filterMap (Holding.ofItem? family)) length

theorem holding?_eq_some {i : Item} {h : Holding} : holding? family length i = some h ↔
    Holding.ofItem? family i = some h ∧ h.network.length = length := by
  simp [holding?, Option.filter_eq_some_iff]

theorem ofItem?_eq_some {i : Item} {h : Holding} : Holding.ofItem? family i = some h ↔
    ∃ b, Block.read? i.1.toList = some b ∧ b.family = family ∧ h = ⟨b.network, i.2⟩ := by
  constructor
  · intro hi
    obtain ⟨b, hb, hh⟩ := Option.bind_eq_some_iff.1 hi
    split at hh
    · rename_i hf
      exact ⟨b, hb, hf, (Option.some.inj hh).symm⟩
    · cases hh
  · rintro ⟨b, hb, hf, rfl⟩
    simp only [Holding.ofItem?, hb, bind, Option.bind, if_pos hf]

theorem last_eq_of_holding? {i : Item} {h : Holding} (hi : holding? family length i = some h) :
    h.last = h.first + (2 ^ (family.width - length) - 1) := by
  obtain ⟨hitem, rfl⟩ := holding?_eq_some.1 hi
  obtain ⟨b, -, rfl, rfl⟩ := ofItem?_eq_some.1 hitem
  rfl

theorem holdings_bucket : (bucket family length f).holdings =
    ((rowOf (holding? family length) Holding.first f.entries.items).map Prod.snd).toArray := by
  unfold bucket Bucket.ofHoldings
  rw [map_snd_rowOf, List.filter_filterMap]
  rfl

theorem find?_row {front back : List (Item × Holding)}
    (hrow : rowOf (holding? family length) Holding.first f.entries.items = front ++ back)
    (hfront : ∀ x ∈ front, x.2.first < place + 1) (hback : ∀ x ∈ back, place + 1 ≤ x.2.first) :
    (bucket family length f).find? place =
      (front.getLast?.map Prod.snd).filter (place ≤ ·.last) := by
  have hholdings : (bucket family length f).holdings = ((front ++ back).map Prod.snd).toArray := by
    rw [holdings_bucket, hrow]
  have hcount : countFront (·.first ≤ place) (bucket family length f).holdings =
      front.length := by
    rw [hholdings]
    exact countFront_map (fun x hx => decide_eq_true (Nat.le_of_lt_succ (hfront x hx)))
      fun x hx => decide_eq_false (not_le.2 (hback x hx))
  unfold Bucket.find?
  rw [hcount]
  rcases List.eq_nil_or_concat front with rfl | ⟨front', x, rfl⟩
  · rfl
  · have hget : (bucket family length f).holdings[front'.length]? = some x.2 := by
      rw [hholdings]
      simp
    simp [hget]

theorem exists_front (family : Family) (length place : Nat) (f : File) :
    ∃ front : List (Item × Holding),
      (bucket family length f).find? place =
        (front.getLast?.map Prod.snd).filter (place ≤ ·.last) ∧
      (∀ x, x ∈ front ↔
        (x.1 ∈ f.entries.items ∧ holding? family length x.1 = some x.2) ∧ x.2.first ≤ place) ∧
      front.Pairwise fun x y =>
        x.2.first ≤ y.2.first ∧ (x.2.first = y.2.first → x.1.1 < y.1.1) := by
  have hsorted := pairwise_rowOf (holding? family length) Holding.first f.entries
  obtain ⟨front, back, hrow, hfront, hback⟩ :=
    exists_parting (fun x : Item × Holding => x.2.first) (place + 1) (hsorted.imp And.left)
  rw [hrow] at hsorted
  refine ⟨front, find?_row hrow hfront hback, fun x => ?_, (List.pairwise_append.1 hsorted).1⟩
  rw [← mem_rowOf (holding? family length) Holding.first, hrow, List.mem_append]
  constructor
  · intro hx
    exact ⟨.inl hx, Nat.le_of_lt_succ (hfront x hx)⟩
  · rintro ⟨hx | hx, hle⟩
    · exact hx
    · exact absurd (hback x hx) (by omega)

theorem find?_eq_some {h : Holding} (hfound : (bucket family length f).find? place = some h) :
    ∃ i ∈ f.entries.items, holding? family length i = some h ∧ h.first ≤ place ∧ place ≤ h.last ∧
      ∀ j ∈ f.entries.items, ∀ g, holding? family length j = some g → g.first ≤ place →
        g.first < h.first ∨ g.first = h.first ∧ j.1 ≤ i.1 := by
  obtain ⟨front, hfind, hmem, hsorted⟩ := exists_front family length place f
  rw [hfind] at hfound
  obtain ⟨hmap, hreach⟩ := Option.filter_eq_some_iff.1 hfound
  obtain ⟨⟨i, x⟩, hlast, rfl⟩ := Option.map_eq_some_iff.1 hmap
  obtain ⟨before, rfl⟩ := List.getLast?_eq_some_iff.1 hlast
  obtain ⟨⟨hi, hread⟩, hstart⟩ := (hmem (i, x)).1 (List.mem_append_right _ List.mem_cons_self)
  refine ⟨i, hi, hread, hstart, of_decide_eq_true hreach, fun j hj g hg hle => ?_⟩
  rcases List.mem_append.1 ((hmem (j, g)).2 ⟨⟨hj, hg⟩, hle⟩) with hin | hin
  · have hpair := (List.pairwise_append.1 hsorted).2.2 _ hin _ List.mem_cons_self
    rcases Nat.eq_or_lt_of_le hpair.1 with he | hlt
    · exact .inr ⟨he, (hpair.2 he).le⟩
    · exact .inl hlt
  · obtain ⟨rfl, rfl⟩ := Prod.mk.inj (List.mem_singleton.1 hin)
    exact .inr ⟨rfl, le_refl _⟩

theorem last_lt_of_find? (hnone : (bucket family length f).find? place = none) {j : Item}
    (hj : j ∈ f.entries.items) {g : Holding} (hg : holding? family length j = some g)
    (hle : g.first ≤ place) : g.last < place := by
  obtain ⟨front, hfind, hmem, hsorted⟩ := exists_front family length place f
  have hin := (hmem (j, g)).2 ⟨⟨hj, hg⟩, hle⟩
  rcases List.eq_nil_or_concat' front with rfl | ⟨before, x, rfl⟩
  · cases hin
  rw [hfind, List.getLast?_concat, Option.map_some, Option.filter_eq_none_iff] at hnone
  have hend : x.2.last < place := by simpa using hnone x.2 rfl
  obtain ⟨⟨-, hread⟩, -⟩ := (hmem x).1 (List.mem_append_right _ List.mem_cons_self)
  have hx := last_eq_of_holding? hread
  have hlast := last_eq_of_holding? hg
  rcases List.mem_append.1 hin with hin | hin
  · have hpair := (List.pairwise_append.1 hsorted).2.2 _ hin _ List.mem_cons_self
    have hfirst : g.first ≤ x.2.first := hpair.1
    omega
  · obtain rfl := List.mem_singleton.1 hin
    exact hend

end Buckets

def Registers (family : Family) (i : Item) (m : Network) : Prop :=
  ∃ b, Block.read? i.1.toList = some b ∧ b.family = family ∧ m = b.network

/-- The item that decides on a block: its network is the longest that covers the block, and its key
is the greatest of those that stand for that network. -/
structure Decides (family : Family) (f : File) (b : Block) (i : Item) (m : Network) : Prop where
  mem : i ∈ f.entries.items
  registers : Registers family i m
  covers : m.Covers b
  greatest : ∀ j ∈ f.entries.items, ∀ m', Registers family j m' → m'.Covers b →
    m'.length < m.length ∨ m' = m ∧ octetsOf j.1.toList ≤ octetsOf i.1.toList

section Walk

variable {family : Family} {f : File} {b : Block}

theorem holding?_of_registers {i : Item} {m : Network} (h : Registers family i m) :
    holding? family m.length i = some ⟨m, i.2⟩ := by
  obtain ⟨c, hc, hf, rfl⟩ := h
  exact holding?_eq_some.2 ⟨ofItem?_eq_some.2 ⟨c, hc, hf, rfl⟩, rfl⟩

theorem registers_of_holding? {length : Nat} {i : Item} {h : Holding}
    (hi : holding? family length i = some h) :
    Registers family i h.network ∧ h.urls = i.2 ∧ h.network.length = length := by
  obtain ⟨hitem, hlength⟩ := holding?_eq_some.1 hi
  obtain ⟨c, hc, hf, rfl⟩ := ofItem?_eq_some.1 hitem
  exact ⟨⟨c, hc, hf, rfl⟩, rfl, hlength⟩

theorem family_of_registers {i : Item} {m : Network} (h : Registers family i m) :
    m.family = family := by
  obtain ⟨c, -, rfl, rfl⟩ := h
  rfl

theorem find?_of_covers {i : Item} {m : Network} (hi : i ∈ f.entries.items)
    (hm : Registers family i m) (hcovers : m.Covers b) :
    (bucket family m.length f).find? b.first ≠ none := by
  intro hnone
  obtain ⟨-, -, hfirst, hlast⟩ := Block.covers_iff.1 hcovers
  have hlt := last_lt_of_find? hnone hi (holding?_of_registers hm) hfirst
  exact absurd hlast (not_le.2 hlt)

theorem mem_buckets {length : Nat} (hb : b.family = family) (h : length ≤ b.length) :
    bucket family length f ∈ (ofFile family f).buckets.filter (·.length ≤ b.length) := by
  have hwidth : length ≤ family.width := h.trans (hb ▸ b.length_le)
  refine List.mem_filter.2 ⟨List.mem_map.2 ⟨length, ?_, rfl⟩, decide_eq_true h⟩
  rw [List.mem_reverse, List.mem_range]
  omega

theorem buckets_descend (family : Family) (f : File) (b : Block) :
    ((ofFile family f).buckets.filter (·.length ≤ b.length)).Pairwise
      fun x y => y.length < x.length := by
  refine List.Pairwise.filter _ (List.pairwise_map.2 ?_)
  exact List.pairwise_reverse.2 List.pairwise_lt_range

theorem decides_of_covering? {h : Holding} (hf : b.family = family)
    (hfound : (ofFile family f).covering? b = some h) :
    ∃ i, Decides family f b i h.network ∧ h.urls = i.2 := by
  obtain ⟨longer, x, shorter, hbuckets, hx, hlonger⟩ := List.findSome?_eq_some_iff.1 hfound
  have hdescend := buckets_descend family f b
  have hmem : x ∈ (ofFile family f).buckets.filter (·.length ≤ b.length) := by simp [hbuckets]
  obtain ⟨hx', hlength⟩ := List.mem_filter.1 hmem
  obtain ⟨length, -, rfl⟩ := List.mem_map.1 hx'
  obtain ⟨i, hi, hread, hstart, hreach, hlast⟩ := find?_eq_some hx
  obtain ⟨hregisters, hurls, rfl⟩ := registers_of_holding? hread
  have hcovers : h.network.Covers b := by
    refine Block.covers_iff.2 ⟨?_, of_decide_eq_true hlength, hstart, hreach⟩
    rw [family_of_registers hregisters, hf]
  refine ⟨i, ⟨hi, hregisters, hcovers, fun j hj m hm hmc => ?_⟩, hurls⟩
  rcases Nat.lt_trichotomy m.length h.network.length with hlt | he | hgt
  · exact .inl hlt
  · have hsame : m = h.network :=
      Network.eq_of_has (hmc _ b.has_first) (hcovers _ b.has_first) he
    have hread' := holding?_of_registers hm
    rw [he] at hread'
    rcases hlast j hj _ hread' (Block.covers_iff.1 hmc).2.2.1 with hlt | ⟨-, hle⟩
    · exact absurd hlt (by rw [Holding.first, hsame]; exact lt_irrefl _)
    · exact .inr ⟨hsame, octetsOf_le_iff.2 hle⟩
  -- A longer network that covers the block would have been met before.
  · have hbucket : bucket family m.length f ∈ longer := by
      have hin := mem_buckets (f := f) hf (Block.covers_iff.1 hmc).2.1
      rw [hbuckets] at hin hdescend
      rcases List.mem_append.1 hin with hin | hin
      · exact hin
      · have hshort := (List.pairwise_cons.1 (List.pairwise_append.1 hdescend).2.1).1
        rcases List.mem_cons.1 hin with he | hin
        · have hl : m.length = h.network.length := congrArg Bucket.length he
          omega
        · have hl : m.length < h.network.length := hshort _ hin
          omega
    exact absurd (hlonger _ hbucket) (find?_of_covers hj hm hmc)

theorem not_covers_of_covering? (hf : b.family = family)
    (hnone : (ofFile family f).covering? b = none) :
    ∀ i ∈ f.entries.items, ∀ m, Registers family i m → ¬ m.Covers b := by
  intro i hi m hm hcovers
  have hin := mem_buckets (f := f) hf (Block.covers_iff.1 hcovers).2.1
  exact find?_of_covers hi hm hcovers (List.findSome?_eq_none_iff.1 hnone _ hin)

end Walk

theorem lookup_longest {bytes : List UInt8} {family : Family} {n : Networks}
    (h : Networks.read bytes family = .ok n) (query : String) :
    ((∃ reason, n.lookup query = .error (.invalidQuery query reason)) ↔ ∀ b, ¬ Asks query b) ∧
    (n.lookup query = .error (.familyMismatch query family.number) ↔
      ∃ b, Asks query b ∧ b.family ≠ family) ∧
    ∀ b, Asks query b → b.family = family → ∃ a, n.lookup query = .ok a ∧
      ((∃ i m, Decides family n.file b i m ∧ a.entry = m.text ∧ a.urls = i.2) ∨
        (∀ i ∈ n.file.entries.items, ∀ m, Registers family i m → ¬ m.Covers b) ∧
          a.entry = "" ∧ a.urls = []) := by
  obtain ⟨f, -, rfl⟩ := exists_of_map h
  have hunasked : (∀ b, ¬ Asks query b) →
      ∃ reason, (ofFile family f).lookup query = .error (.invalidQuery query reason) :=
    lookup_unasked
  have hmismatch : ∀ b, Asks query b → b.family ≠ family →
      (ofFile family f).lookup query = .error (.familyMismatch query family.number) :=
    fun b hb hf => lookup_mismatch hb hf
  have hasked : ∀ b, Asks query b → b.family = family →
      ∃ text, (ofFile family f).lookup query = .ok (answer text ((ofFile family f).covering? b)) :=
    fun b hb hf => lookup_asked hb hf
  refine ⟨⟨?_, hunasked⟩, ⟨fun he => ?_, fun ⟨b, hb, hf⟩ => hmismatch b hb hf⟩, fun b hb hf => ?_⟩
  · rintro ⟨reason, he⟩ b hb
    by_cases hf : b.family = family
    · obtain ⟨text, hok⟩ := hasked b hb hf
      cases he.symm.trans hok
    · cases he.symm.trans (hmismatch b hb hf)
  · by_cases hnone : ∀ b, ¬ Asks query b
    · obtain ⟨reason, he'⟩ := hunasked hnone
      cases he.symm.trans he'
    · obtain ⟨b, hb⟩ := not_forall_not.1 hnone
      refine ⟨b, hb, fun hf => ?_⟩
      obtain ⟨text, hok⟩ := hasked b hb hf
      cases he.symm.trans hok
  · obtain ⟨text, hok⟩ := hasked b hb hf
    refine ⟨_, hok, ?_⟩
    cases hc : (ofFile family f).covering? b with
    | none => exact .inr ⟨not_covers_of_covering? hf hc, rfl, rfl⟩
    | some x =>
      obtain ⟨i, hdecides, hurls⟩ := decides_of_covering? hf hc
      exact .inl ⟨i, x.network, hdecides, rfl, hurls⟩

def nested : List UInt8 :=
  octetsOf ("\x7b\"services\":[[[\"198.51.0.0/16\"],[\"https://wide.example/\"]]," ++
    "[[\"198.51.100.0/24\"],[\"https://first.example/\"]]," ++
    "[[\"198.51.100.7/24\"],[\"https://second.example/\"]]]\x7d").toList

theorem nested_lookup : ∃ n a, Networks.read nested .v4 = .ok n ∧
    n.lookup "198.51.100.9" = .ok a ∧ a.entry = "198.51.100.0/24" ∧
    n.file.entries.find? "198.51.100.7/24" = some a.urls ∧
    n.lookup "2001:db8::1" = .error (.familyMismatch "2001:db8::1" 4) := by
  have hkeys : (Networks.read nested .v4).map (fun n => n.file.entries.keys) =
      .ok ["198.51.0.0/16", "198.51.100.0/24", "198.51.100.7/24"] := by
    decide +kernel
  obtain ⟨n, hn, hkeys⟩ := exists_of_map hkeys
  have hnetwork : (Block.read? "198.51.100.7/24".toList).map
      (fun c => (c.family, c.length, c.network.first, c.network.last, c.network.text)) =
      some (.v4, 24, 3325256704, 3325256959, "198.51.100.0/24") := by
    decide +kernel
  have hquery : (Address.read? "198.51.100.9".toList).map
      (fun x => ((Block.single x).family, (Block.single x).length, (Block.single x).first)) =
      some (.v4, 32, 3325256713) := by
    decide +kernel
  have hother : (Address.read? "2001:db8::1".toList).map (·.family) = some .v6 := by
    decide +kernel
  have hlengths : ∀ key ∈ ["198.51.0.0/16", "198.51.100.0/24", "198.51.100.7/24"],
      ((Block.read? key.toList).map (·.length)).getD 0 ≤ 24 := by
    decide +kernel
  obtain ⟨c, hc, hparts⟩ := Option.map_eq_some_iff.1 hnetwork
  obtain ⟨x, hx, hquery⟩ := Option.map_eq_some_iff.1 hquery
  obtain ⟨y, hy, hyf⟩ := Option.map_eq_some_iff.1 hother
  simp only [Prod.mk.injEq] at hparts hquery
  obtain ⟨hf, hlength, hfirst, hlast, htext⟩ := hparts
  obtain ⟨hxf, hxlength, hxfirst⟩ := hquery
  have hmismatch := (lookup_longest hn "2001:db8::1").2.1.2
    ⟨_, .address hy, fun he => by cases hyf.symm.trans he⟩
  have hcovers : c.network.Covers (.single x) := by
    refine Block.covers_iff.2 ⟨hf.trans hxf.symm, ?_, ?_, ?_⟩
    · have hle : c.length ≤ (Block.single x).length := by omega
      exact hle
    · omega
    · omega
  have hkey : "198.51.100.7/24" ∈ n.file.entries.keys := by simp [hkeys]
  obtain ⟨j, hj, hkey⟩ := List.mem_map.1 hkey
  have hregisters : Registers .v4 j c.network := ⟨c, hkey ▸ hc, hf, rfl⟩
  obtain ⟨a, ha, ⟨i, m, hdecides, hentry, hurls⟩ | ⟨hnone, -⟩⟩ :=
    (lookup_longest hn "198.51.100.9").2.2 _ (.address hx) hxf
  · have hi : i.1 ∈ n.file.entries.keys := List.mem_map_of_mem hdecides.mem
    rw [hkeys] at hi
    rcases hdecides.greatest j hj _ hregisters hcovers with hlt | ⟨rfl, hle⟩
    · obtain ⟨d, hd, -, rfl⟩ := hdecides.registers
      have hlong := hlengths i.1 hi
      rw [hd] at hlong
      have hd : d.length ≤ 24 := hlong
      have hlt : c.length < d.length := hlt
      omega
    · have hlast : i.1 = "198.51.100.7/24" := by
        rw [octetsOf_le_iff, hkey] at hle
        simp only [List.mem_cons, List.not_mem_nil, or_false] at hi
        rcases hi with he | he | he
        · exact absurd (he ▸ hle) (by decide)
        · exact absurd (he ▸ hle) (by decide)
        · exact he
      refine ⟨n, a, hn, ha, hentry.trans htext, ?_, hmismatch⟩
      rw [hurls, ← hlast]
      exact Entries.find?_of_mem hdecides.mem
  · exact absurd hcovers (hnone j hj _ hregisters)

end Networks

end Registry

end RdapDirectory
