import Mathlib.Data.List.Nodup
import Mathlib.Data.List.Perm.Subperm
import RdapDirectory.Proofs.Places

namespace RdapDirectory.Files.Tree

structure Grows (t u : Tree) : Prop extends Keeps t u where
  file : ∀ p, u.file? p = t.file? p

structure Gains (t u : Tree) (place : Place) (bytes : List UInt8) (changed : Instant) : Prop
    extends Keeps t u where
  file : ∀ p, u.file? p = if p = place then some (bytes, changed) else t.file? p

theorem Grows.refl (t : Tree) : t.Grows t := ⟨.refl t, fun _ => rfl⟩

theorem Grows.trans {t u v : Tree} (h : t.Grows u) (k : u.Grows v) : t.Grows v :=
  ⟨h.toKeeps.trans k.toKeeps, fun p => (k.file p).trans (h.file p)⟩

theorem Grows.gains {t u v : Tree} {place : Place} {bytes : List UInt8} {changed : Instant}
    (h : t.Grows u) (k : u.Gains v place bytes changed) : t.Gains v place bytes changed :=
  ⟨h.toKeeps.trans k.toKeeps, fun p => by rw [k.file p, h.file p]⟩

theorem file?_congr {t u : Tree} {p : Place} (h : u.get? p = t.get? p) : u.file? p = t.file? p := by
  simp only [file?, h]

theorem get?_link {t : Tree} {p : Place} (hp : t.IsFolder p) (name : String) (n : Node)
    (now : Instant) (q : Place) : (t.link p name n now).get? q =
      if q = p then some (.folder now) else if q = name :: p then some n else t.get? q := by
  obtain ⟨changed, hp⟩ := hp
  have hg : (t.put (name :: p) n).get? p = some (.folder changed) := by
    rw [get?_put, if_neg (place_ne name p).symm, hp]
  unfold link touch
  rw [hg]
  simp only [get?_put, Node.touch]

theorem get?_unlink {t : Tree} {p : Place} (hp : t.IsFolder p) (name : String)
    (now : Instant) (q : Place) : (t.unlink p name now).get? q =
      if q = p then some (.folder now) else if q = name :: p then none else t.get? q := by
  obtain ⟨changed, hp⟩ := hp
  have hg : (t.erase (name :: p)).get? p = some (.folder changed) := by
    rw [get?_erase, if_neg (place_ne name p).symm, hp]
  unfold unlink touch
  rw [hg]
  simp only [get?_put, get?_erase, Node.touch]

theorem get?_unlink_link {t : Tree} {p : Place} (hp : t.IsFolder p) {name : String}
    (hn : t.get? (name :: p) = none) (n : Node) (now : Instant) (q : Place) :
    ((t.link p name n now).unlink p name now).get? q =
      if q = p then some (.folder now) else t.get? q := by
  have hv : (t.link p name n now).IsFolder p := ⟨now, by rw [get?_link hp, if_pos rfl]⟩
  rw [get?_unlink hv, get?_link hp]
  by_cases hq : q = name :: p
  · simp [hq, hn]
  · simp only [hq, if_false]
    split <;> rfl

theorem isFolder_link_file {t : Tree} {p : Place} (hp : t.IsFolder p) {name : String}
    (hn : t.get? (name :: p) = none) (bytes : List UInt8) (changed now : Instant) (q : Place) :
    (t.link p name (.file bytes changed) now).IsFolder q ↔ t.IsFolder q := by
  unfold IsFolder
  rw [get?_link hp]
  by_cases hqp : q = p
  · subst hqp
    exact ⟨fun _ => hp, fun _ => ⟨now, if_pos rfl⟩⟩
  · by_cases hqn : q = name :: p
    · subst hqn
      simp [hqp, hn]
    · simp only [hqp, hqn, if_false]

theorem here_touch (t : Tree) (p : Place) (now : Instant) : (t.touch p now).here = t.here := by
  unfold touch
  split <;> rfl

theorem here_link (t : Tree) (p : Place) (name : String) (n : Node) (now : Instant) :
    (t.link p name n now).here = t.here := here_touch _ _ _

theorem here_unlink (t : Tree) (p : Place) (name : String) (now : Instant) :
    (t.unlink p name now).here = t.here := here_touch _ _ _

theorem grows_link_folder {t : Tree} {p : Place} (hp : t.IsFolder p) {name : String}
    (hn : t.get? (name :: p) = none) (now : Instant) :
    t.Grows (t.link p name (.folder now) now) := by
  constructor
  · refine ⟨here_link .., fun q hq => ?_⟩
    rw [IsFolder, get?_link hp]
    split
    · exact ⟨now, rfl⟩
    · split
      · exact ⟨now, rfl⟩
      · exact hq
  · intro q
    by_cases hq : q = p
    · subst hq
      rw [hp.file?, IsFolder.file? ⟨now, by rw [get?_link hp, if_pos rfl]⟩]
    · by_cases hq' : q = name :: p
      · subst hq'
        simp [file?, get?_link hp, hq, hn]
      · exact file?_congr (by rw [get?_link hp, if_neg hq, if_neg hq'])

theorem freshName_spec (t : Tree) (folder : Place) :
    ∃ n : Nat, t.freshName folder = ".tmp" ++ toString n ∧
      t.get? (t.freshName folder :: folder) = none := by
  let free : String → Bool := fun s => (t.get? (s :: folder)).isNone
  let names := (List.range (t.nodes.length + 1)).map fun n => s!".tmp{n}"
  change ∃ n : Nat, (names.find? free).getD ".tmp" = _ ∧
    t.get? ((names.find? free).getD ".tmp" :: folder) = none
  cases hf : names.find? free with
  | some s =>
    obtain ⟨n, -, hn⟩ := List.mem_map.1 (List.mem_of_find?_eq_some hf)
    exact ⟨n, hn.symm, by simpa [free] using List.find?_some hf⟩
  | none =>
    -- There are more names than nodes, so they cannot all be taken.
    have hnodup : (names.map (· :: folder)).Nodup := by
      rw [List.map_map]
      refine List.Nodup.map (fun a b h => ?_) List.nodup_range
      have h : ".tmp" ++ toString a = ".tmp" ++ toString b := (List.cons.inj h).1
      have h := congrArg String.toList ((String.append_right_inj _).1 h)
      rw [Nat.toString_eq_ofList_toDigits, Nat.toString_eq_ofList_toDigits,
        String.toList_ofList, String.toList_ofList] at h
      rw [← Nat.ofDigitChars_ten_toDigits (n := a), h, Nat.ofDigitChars_ten_toDigits]
    have hsub : names.map (· :: folder) ⊆ t.nodes.map (·.1) := by
      intro q hq
      obtain ⟨s, hs, rfl⟩ := List.mem_map.1 hq
      have hs : t.get? (s :: folder) ≠ none := by
        simpa [free] using List.find?_eq_none.1 hf s hs
      obtain ⟨n, hn⟩ := Option.ne_none_iff_exists'.1 hs
      obtain ⟨as, bs, ht, -⟩ := List.lookup_eq_some_iff.1 hn
      exact List.mem_map.2 ⟨(s :: folder, n), by simp [ht], rfl⟩
    have hlen := (List.subperm_of_subset hnodup hsub).length_le
    simp only [names, List.length_map, List.length_range] at hlen
    omega

theorem hasFolder_iff {t : Tree} {path : String} : t.hasFolder path = true ↔
    ∃ q, t.locate path = .ok q ∧ t.IsFolder q := by
  unfold hasFolder
  cases hs : t.stat path with
  | error e =>
    constructor
    · intro h
      cases h
    · rintro ⟨q, hq, changed, hg⟩
      rw [stat_eq_ok.2 ⟨q, hq, hg⟩] at hs
      cases hs
  | ok n =>
    obtain ⟨q, hq, hg⟩ := stat_eq_ok.1 hs
    cases n <;> simp [hq, hg, IsFolder, Node.isFolder]

theorem locate_of_reaches {t : Tree} {folder : String} (h : folder ≠ "")
    (hr : t.Reaches folder) : t.locate folder = .ok (t.home folder) := by
  obtain ⟨hw, hf⟩ := hr
  simp only [locate, String.isEmpty_iff, h, if_false]
  rcases steps_eq_leading h with hs | hs
  · rw [hs, hw]
  · rw [hs]
    exact walk_append_eq_ok.2 ⟨_, hw, walk_cons_eq_ok.2 ⟨hf, rfl⟩⟩

theorem hasFolder_iff_reaches {t : Tree} {folder : String} (h : folder ≠ "") :
    t.hasFolder folder = true ↔ t.Reaches folder := by
  rw [hasFolder_iff]
  constructor
  · rintro ⟨q, hw, hq⟩
    simp only [locate, String.isEmpty_iff, h, if_false] at hw
    rcases steps_eq_leading h with hs | hs
    · rw [hs] at hw
      have he : q = t.home folder := land_of_walk hw
      exact ⟨he ▸ hw, he ▸ hq⟩
    · rw [hs] at hw
      obtain ⟨r, hr, hw⟩ := walk_append_eq_ok.1 hw
      obtain ⟨hf, -⟩ := walk_cons_eq_ok.1 hw
      have he : r = t.home folder := land_of_walk hr
      exact ⟨he ▸ hr, he ▸ hf⟩
  · intro hr
    exact ⟨t.home folder, locate_of_reaches h hr, hr.2⟩

theorem makeFolder_eq_ok {t u : Tree} {path : String} {now : Instant}
    (h : t.makeFolder path now = .ok u) : ∃ p name, t.locateEntry path = .ok (p, name) ∧
      name ≠ "." ∧ name ≠ ".." ∧ t.get? (name :: p) = none ∧
        u = t.link p name (.folder now) now := by
  unfold makeFolder at h
  cases hl : t.locateEntry path with
  | error e => simp [hl, bind, Except.bind] at h
  | ok e =>
    obtain ⟨p, name⟩ := e
    simp only [hl, bind, Except.bind] at h
    split at h
    · cases h
    · rename_i hc
      simp only [Bool.or_eq_true, decide_eq_true_eq, Option.isSome_iff_ne_none, not_or,
        not_not] at hc
      exact ⟨p, name, rfl, hc.1.1, hc.1.2, hc.2, (Except.ok.inj h).symm⟩

theorem makeFolder_of_hasFolder {t : Tree} {path : String} (h : t.hasFolder path = true)
    (now : Instant) : t.makeFolder path now = .error .taken := by
  obtain ⟨q, hl, changed, hg⟩ := hasFolder_iff.1 h
  have he : path ≠ "" := by
    rintro rfl
    cases hl
  simp only [locate, String.isEmpty_iff, he, if_false] at hl
  rcases trimmed_cases (steps path) with ht | ⟨names, name, blanks, hs, hn, hb⟩
  · unfold makeFolder locateEntry
    simp only [String.isEmpty_iff, he, if_false, ht]
    rfl
  · rw [hs] at hl
    obtain ⟨p, hw, hl⟩ := walk_append_eq_ok.1 hl
    obtain ⟨hp, hl⟩ := walk_cons_eq_ok.1 hl
    have hlocate : t.locateEntry path = .ok (p, name) :=
      locateEntry_eq_ok.2 ⟨he, hn, hp, names, blanks, hs, hb, hw⟩
    have hq : q = stride p name := by
      rw [land_of_walk hl, land_blanks hb]
    have htaken : (name = "." || name = ".." || (t.get? (name :: p)).isSome) = true := by
      by_cases hd : name = "." ∨ name = ".."
      · rcases hd with rfl | rfl <;> rfl
      · obtain ⟨hd, hdd⟩ := not_or.1 hd
        rw [stride, if_neg (by simp [hn, hd]), if_neg hdd] at hq
        rw [← hq, hg]
        simp
    unfold makeFolder
    simp only [hlocate, bind, Except.bind, htaken]
    rfl

theorem makeFolder_grows {t u : Tree} {path : String} {now : Instant}
    (h : t.makeFolder path now = .ok u) : t.Grows u := by
  obtain ⟨p, name, hl, -, -, hn, rfl⟩ := makeFolder_eq_ok h
  exact grows_link_folder (locateEntry_eq_ok.1 hl).2.2.1 hn now

theorem makeFolder_hasFolder {t u : Tree} {path : String} {now : Instant}
    (h : t.makeFolder path now = .ok u) : u.hasFolder path = true := by
  have hg := makeFolder_grows h
  obtain ⟨p, name, hl, hd, hdd, -, rfl⟩ := makeFolder_eq_ok h
  obtain ⟨he, hn, hp, names, blanks, hs, hb, hw⟩ := locateEntry_eq_ok.1 hl
  have hf : (t.link p name (.folder now) now).IsFolder (name :: p) :=
    ⟨now, by rw [get?_link hp, if_neg (place_ne name p), if_pos rfl]⟩
  rw [hasFolder_iff]
  refine ⟨name :: p, ?_, hf⟩
  simp only [locate, String.isEmpty_iff, he, if_false, origin_congr hg.here, hs]
  refine walk_append_eq_ok.2 ⟨p, walk_mono hg.folder hw, walk_cons_eq_ok.2 ⟨hg.folder p hp, ?_⟩⟩
  have hstride : stride p name = name :: p := by simp [stride, hn, hd, hdd]
  rw [hstride]
  exact walk_blanks hf hb

theorem makeChain_of_makeFolder {P : Tree → Tree → Prop} (hrefl : ∀ t, P t t)
    (htrans : ∀ t u v, P t u → P u v → P t v) (now : Instant) (paths : List String) (t : Tree)
    (hmake : ∀ path ∈ paths, ∀ t u, Tree.makeFolder t path now = .ok u → P t u) :
    P t (t.makeChain now paths).2 := by
  fun_induction makeChain t now paths with
  | case1 => exact hrefl _
  | case2 => exact hrefl _
  | case3 first rest _ u hm => exact hmake first (by simp) t u hm
  | case4 first rest _ _ e u hc ih =>
    simpa [hc] using ih fun path hp => hmake path (List.mem_cons_of_mem _ hp)
  | case5 first rest _ _ u hc v hm ih =>
    have hu : P t u := by
      simpa [hc] using ih fun path hp => hmake path (List.mem_cons_of_mem _ hp)
    exact htrans t u v hu (hmake first (by simp) u v hm)
  | case6 first rest _ _ u hc e hm ih =>
    simpa [hc] using ih fun path hp => hmake path (List.mem_cons_of_mem _ hp)
  | case7 => exact hrefl _

theorem makeFolders_grows (t : Tree) (folder : String) (now : Instant) :
    t.Grows (t.makeFolders folder now).2 :=
  makeChain_of_makeFolder .refl (fun _ _ _ h k => h.trans k) now _ t
    fun _ _ _ _ h => makeFolder_grows h

theorem makeChain_hasFolder {t : Tree} {path : String} {rest : List String} {now : Instant}
    (hp : path ≠ "") (h : (t.makeChain now (path :: rest)).1 = .ok ()) :
    (t.makeChain now (path :: rest)).2.hasFolder path = true := by
  have hif {u : Tree} {e : Fault}
      (h : (if u.hasFolder path then Except.ok () else .error e) = .ok ()) :
      u.hasFolder path = true := by
    by_contra hn
    simp [hn] at h
  generalize hl : path :: rest = paths at h ⊢
  revert h
  fun_cases makeChain t now paths with
  | case1 => cases hl
  | case2 first _ he => cases hl; exact absurd (String.isEmpty_iff.1 he) hp
  | case3 first _ _ u hm => cases hl; exact fun _ => makeFolder_hasFolder hm
  | case4 => exact fun h => by cases h
  | case5 first _ _ _ u hc v hm => cases hl; exact fun _ => makeFolder_hasFolder hm
  | case6 => cases hl; exact hif
  | case7 => cases hl; exact hif

theorem makeFolders_reaches {t u : Tree} {folder : String} {now : Instant}
    (hh : t.IsFolder t.here) (h : t.makeFolders folder now = (.ok (), u)) :
    u.Reaches folder := by
  have hu : u = (t.makeFolders folder now).2 := by rw [h]
  by_cases he : folder = ""
  · have hg : t.Grows u := hu ▸ makeFolders_grows t folder now
    subst he
    have ho : u.here = t.here := hg.here
    exact ⟨rfl, (ho ▸ hg.folder _ hh : u.IsFolder u.here)⟩
  · rw [← hasFolder_iff_reaches he, hu]
    exact makeChain_hasFolder he (by rw [makeFolders] at h; rw [h])

theorem makeFolders_of_reaches {t : Tree} {folder : String} (h : t.Reaches folder)
    (now : Instant) : t.makeFolders folder now = (.ok (), t) := by
  unfold makeFolders makeChain
  by_cases he : folder = ""
  · simp [he]
  · have hf := (hasFolder_iff_reaches he).2 h
    simp [he, makeFolder_of_hasFolder hf, hf]

end RdapDirectory.Files.Tree
