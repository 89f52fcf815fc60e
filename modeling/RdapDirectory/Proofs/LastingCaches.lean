import RdapDirectory.Proofs.CacheContent
import RdapDirectory.Proofs.ClearPaths

namespace RdapDirectory

open Files Tree

namespace Files.Tree

theorem Sound.of_keeps {t u : Tree} (h : t.Sound) (hk : t.Keeps u)
    (hg : ∀ name p n, u.get? (name :: p) = some n →
      t.get? (name :: p) = some n ∨ t.IsFolder (name :: p) ∨ t.IsFolder p) : u.Sound := by
  refine ⟨hk.here ▸ hk.folder _ h.here, fun name p n hn => hk.folder p ?_⟩
  rcases hg name p n hn with ht | ⟨changed, ht⟩ | ht
  · exact h.entry name p n ht
  · exact h.entry name p _ ht
  · exact ht

end Files.Tree

namespace Cache

variable {c c' : Cache} {t u : Tree} {name other : String} {bytes : List UInt8} {now : Instant}

structure SameView (c c' : Cache) (t u : Tree) (name : String) : Prop where
  stored : c'.stored? u name = c.stored? t name
  freshness : ∀ now, c'.freshness u name now = c.freshness t name now

theorem SameView.refl (c : Cache) (t : Tree) (name : String) : c.SameView c t t name :=
  ⟨rfl, fun _ => rfl⟩

theorem SameView.trans {a b c : Cache} {t u v : Tree} {name : String}
    (h : a.SameView b t u name) (k : b.SameView c u v name) : a.SameView c t v name :=
  ⟨k.stored.trans h.stored, fun now => (k.freshness now).trans (h.freshness now)⟩

def Lasting (c : Cache) (t : Tree) (now : Instant) : Prop :=
  match c with
  | memory _ => True
  | disk d => t.Lasting d.folder now

theorem Alike.lasting (h : c.Alike c') (hl : c.Lasting t now) : c'.Lasting t now :=
  match c, c', h with
  | memory _, memory _, _ => trivial
  | disk d, disk e, h => by
    have hf : d.folder = e.folder := h
    change t.Lasting e.folder now
    exact hf ▸ hl

theorem Disk.save_fst_congr {d e : Disk} (h : d.folder = e.folder) (t : Tree) (name : String)
    (bytes : List UInt8) (now : Instant) :
    (e.save t name bytes now).1 = (d.save t name bytes now).1 := by
  have hprepare : e.prepare t now = d.prepare t now := by simp only [prepare, folderFault, h]
  have hreplace (u : Tree) : e.replace u name bytes now = d.replace u name bytes now := by
    simp only [replace, place, path, h]
  have hmodified (u : Tree) : e.modified u name = d.modified u name := by
    simp only [modified, path, h]
  simp only [save, hprepare]
  rcases d.prepare t now with ⟨_ | _, v⟩
  · rfl
  · simp only [hreplace]
    rcases d.replace v name bytes now with ⟨_ | _, u⟩
    · rfl
    · simp only [hmodified]
      cases d.modified u name <;> rfl

theorem Alike.save_fst (h : c.Alike c') (t : Tree) (name : String) (bytes : List UInt8)
    (now : Instant) : (c'.save t name bytes now).1 = (c.save t name bytes now).1 :=
  match c, c', h with
  | memory _, memory _, _ => rfl
  | disk _, disk _, h => Disk.save_fst_congr h t name bytes now

namespace Disk

variable {d : Disk}

theorem save_fst_of_reaches (ht : t.Reaches d.folder) (hu : u.Reaches d.folder)
    (hh : u.here = t.here) (hn : IsPlain name)
    (h : u.IsFolder (name :: t.home d.folder) ↔ t.IsFolder (name :: t.home d.folder))
    (bytes : List UInt8) (now : Instant) :
    (d.save u name bytes now).1 = (d.save t name bytes now).1 := by
  have hhome : u.home d.folder = t.home d.folder := home_congr hh _
  rcases save_of_reaches hu hn bytes now with ⟨hfu, v, hv, -⟩ | ⟨hfu, v, hv, -⟩ <;>
    rw [hhome] at hfu
  · rcases save_of_reaches ht hn bytes now with ⟨-, w, hw, -⟩ | ⟨hft, -⟩
    · rw [hv, hw]
    · exact absurd (h.1 hfu) hft
  · rcases save_of_reaches ht hn bytes now with ⟨hft, -⟩ | ⟨-, w, hw, -⟩
    · exact absurd (h.2 hft) hfu
    · rw [hv, hw]

theorem save_reached {x : Except Failure Unit} {d' : Disk} (hr : t.Reaches d.folder)
    (hn : IsPlain name) (h : d.save t name bytes now = (x, d', u)) :
    (d'.folder = d.folder ∧ d'.ttl = d.ttl) ∧ u.Reaches d.folder ∧ u.here = t.here ∧
      (∀ other, u.IsFolder (other :: t.home d.folder) ↔
        t.IsFolder (other :: t.home d.folder)) ∧
      ∀ other, other ≠ name ∨ x ≠ .ok () → d'.seen.lookup other = d.seen.lookup other ∧
        u.get? (other :: t.home d.folder) = t.get? (other :: t.home d.folder) := by
  rcases save_of_reaches hr hn bytes now with ⟨-, v, hv, hh, hg⟩ | ⟨hf, v, hv, hh, hg⟩
  · cases hv.symm.trans h
    have hsame (other : String) : u.get? (other :: t.home d.folder) =
        t.get? (other :: t.home d.folder) := by
      rw [hg, if_neg (place_ne other _)]
    refine ⟨⟨rfl, rfl⟩, hr.mono (grows_of_get? hr.2 hh hg).toKeeps, hh, fun other => ?_,
      fun other _ => ⟨rfl, hsame other⟩⟩
    unfold IsFolder
    rw [hsame]
  · cases hv.symm.trans h
    have hsame (other : String) (ho : other ≠ name) : u.get? (other :: t.home d.folder) =
        t.get? (other :: t.home d.folder) := by
      rw [hg, if_neg (place_ne other _), if_neg fun he => ho (List.cons.inj he).1]
    refine ⟨⟨rfl, rfl⟩, hr.mono (gains_of_get? hr.2 hf hh hg).toKeeps, hh, fun other => ?_,
      fun other ho => ?_⟩
    · by_cases ho : other = name
      · subst ho
        refine iff_of_false ?_ hf
        rintro ⟨changed, hfile⟩
        rw [hg, if_neg (place_ne other _), if_pos rfl] at hfile
        cases hfile
      · unfold IsFolder
        rw [hsame other ho]
    · have hne : other ≠ name := ho.resolve_right fun hx => hx rfl
      exact ⟨(lookup_cons_eq ..).trans (if_neg hne), hsame other hne⟩

theorem save_sound (ht : t.Sound) (hn : IsPlain name) (bytes : List UInt8) (now : Instant) :
    (d.save t name bytes now).2.2.Sound := by
  have hv := ht.makeFolders d.folder now
  cases hm : t.makeFolders d.folder now with
  | mk x v =>
    rw [hm] at hv
    cases x with
    | error e => simpa only [save, prepare, hm] using hv
    | ok _ =>
      have hr := makeFolders_reaches ht.here hm
      rw [save_of_makeFolders ht.here bytes hm]
      rcases save_of_reaches hr hn bytes now with ⟨-, u, hu, hh, hg⟩ | ⟨hf, u, hu, hh, hg⟩
      · rw [hu]
        refine hv.of_keeps (grows_of_get? hr.2 hh hg).toKeeps fun s p n hs => ?_
        rw [hg] at hs
        split at hs
        · rename_i hp
          exact .inr (.inl (hp ▸ hr.2))
        · exact .inl hs
      · rw [hu]
        refine hv.of_keeps (gains_of_get? hr.2 hf hh hg).toKeeps fun s p n hs => ?_
        rw [hg] at hs
        split at hs
        · rename_i hp
          exact .inr (.inl (hp ▸ hr.2))
        · split at hs
          · rename_i hp
            exact .inr (.inr ((List.cons.inj hp).2 ▸ hr.2))
          · exact .inl hs

end Disk

theorem sameView_of_stat {d e : Disk} (hf : e.folder = d.folder) (ht : e.ttl = d.ttl)
    (hs : e.seen.lookup name = d.seen.lookup name)
    (h : ∀ n, u.stat (join d.folder name) = .ok n ↔ t.stat (join d.folder name) = .ok n) :
    (disk d).SameView (disk e) t u name := by
  constructor
  · apply Option.ext
    rintro ⟨bytes, changed⟩
    change e.stored? u name = some _ ↔ d.stored? t name = some _
    rw [Disk.stored?_eq_some, Disk.stored?_eq_some, Disk.path, Disk.path, hf]
    exact h _
  · intro later
    simp only [freshness, Disk.freshness, Disk.modified, Disk.path, hf, ht, hs]
    cases hx : t.stat (join d.folder name) with
    | ok n => rw [(h n).2 hx]
    | error e =>
      cases hy : u.stat (join d.folder name) with
      | ok n => cases hx.symm.trans ((h n).1 hy)
      | error e => rfl

theorem save_lasting {x : Except Failure Unit} (hl : c.Lasting t now) (hh : t.IsFolder t.here)
    (hn : IsPlain name) (h : c.save t name bytes now = (x, c', u)) :
    c'.Lasting u now ∧ ∀ other, IsPlain other →
      (∀ b, (c'.save u other b now).1 = (c.save t other b now).1) ∧
      (other ≠ name ∨ x ≠ .ok () → c.SameView c' t u other) := by
  cases c with
  | memory m =>
    cases h
    refine ⟨trivial, fun other _ => ⟨fun _ => rfl, fun ho => ?_⟩⟩
    have hne : other ≠ name := ho.resolve_right fun hx => hx rfl
    have hl : (m.save name bytes now).records.lookup other = m.records.lookup other :=
      (lookup_cons_eq ..).trans (if_neg hne)
    constructor
    · simp only [stored?, hl]
    · intro later
      simp only [freshness, Memory.freshness, hl]
      rfl
  | disk d =>
    obtain ⟨y, v, hv, hagain, hstat⟩ := hl
    cases y with
    | error e =>
      -- No folder, now or after another attempt: nothing is saved, nothing is found.
      have hfail (s : Tree) (hs : s.makeFolders d.folder now = (.error e, v)) (other : String)
          (b : List UInt8) : d.save s other b now = (.error (d.folderFault e), d, v) := by
        simp only [Disk.save, Disk.prepare, hs]
      simp only [save, hfail t hv] at h
      cases h
      refine ⟨⟨_, u, hagain, hagain, fun _ _ _ => .rfl⟩, fun other ho =>
        ⟨fun b => ?_, fun _ => ?_⟩⟩
      · simp only [save, hfail t hv, hfail u hagain]
      · exact sameView_of_stat rfl rfl rfl fun n => hstat other n ho
    | ok _ =>
      have hr := makeFolders_reaches hh hv
      have hsave (other : String) (b : List UInt8) : d.save t other b now = d.save v other b now :=
        Disk.save_of_makeFolders hh b hv
      rcases hx : d.save v name bytes now with ⟨z, d', w⟩
      simp only [save, hsave, hx] at h
      cases h
      obtain ⟨⟨hf, httl⟩, hu, hhere, hfolder, hget⟩ := Disk.save_reached hr hn hx
      have hu' : u.Reaches d'.folder := hf ▸ hu
      refine ⟨hu'.lasting now, fun other ho => ⟨fun b => ?_, fun h => ?_⟩⟩
      · have hsame := Disk.save_fst_of_reaches hr hu hhere ho (hfolder other) b now
        simp only [save, hsave, Disk.save_fst_congr hf.symm, hsame]
      · obtain ⟨hseen, hg⟩ := hget other h
        apply sameView_of_stat hf httl hseen
        intro n
        rw [← hstat other n ho, stat_join_eq_ok ho, stat_join_eq_ok ho, home_congr hhere, hg]
        exact and_congr_left' (iff_of_true hu hr)

theorem stored?_of_save (hh : t.IsFolder t.here) (hn : IsPlain name)
    (h : c.save t name bytes now = (.ok (), c', u)) : c'.stored? u name = some (bytes, now) := by
  rcases save_cases c hh hn bytes now with ⟨e, v, hv, -⟩ | ⟨d, v, hv, hsaved⟩
  · cases hv.symm.trans h
  · cases hv.symm.trans h
    exact hsaved.stored

theorem save_sound (c : Cache) (ht : t.Sound) (hn : IsPlain name) (bytes : List UInt8)
    (now : Instant) : (c.save t name bytes now).2.2.Sound :=
  match c with
  | memory _ => ht
  | disk _ => Disk.save_sound ht hn bytes now

def Clear (c : Cache) (t : Tree) : Prop :=
  match c with
  | memory _ => True
  | disk d => t.Clear d.folder

theorem Clear.lasting (h : c.Clear t) (ht : t.Sound) (now : Instant) : c.Lasting t now :=
  match c, h with
  | memory _, _ => trivial
  | disk _, h => Files.Tree.Clear.lasting ht h now

theorem Clear.sameView {x : Except Failure Unit} (hc : c.Clear t) (ht : t.Sound)
    (hn : IsPlain name) (h : c.save t name bytes now = (x, c', u)) (ho : IsPlain other)
    (hne : other ≠ name ∨ x ≠ .ok ()) : c.SameView c' t u other := by
  obtain ⟨-, hothers⟩ := save_lasting (hc.lasting ht now) ht.here hn h
  exact (hothers other ho).2 hne

end Cache

end RdapDirectory
