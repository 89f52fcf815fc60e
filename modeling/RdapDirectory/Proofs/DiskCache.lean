import RdapDirectory.Cache.Disk
import RdapDirectory.Proofs.Growth

namespace RdapDirectory.Files.Tree

theorem reaches_link_file {t : Tree} {folder name : String} (hr : t.Reaches folder)
    (hn : t.get? (name :: t.home folder) = none) (bytes : List UInt8) (changed now : Instant) :
    (t.link (t.home folder) name (.file bytes changed) now).Reaches folder :=
  hr.mono ⟨here_link .., fun q => (isFolder_link_file hr.2 hn bytes changed now q).2⟩

theorem keeps_of_get? {t u : Tree} (now : Instant) (hh : u.here = t.here)
    (hg : ∀ q, t.IsFolder q → u.get? q = some (.folder now) ∨ u.get? q = t.get? q) :
    t.Keeps u := by
  constructor
  · exact hh
  · intro q hq
    rcases hg q hq with he | he
    · exact ⟨now, he⟩
    · obtain ⟨changed, hq⟩ := hq
      exact ⟨changed, he.trans hq⟩

theorem grows_of_get? {t u : Tree} {p : Place} {now : Instant} (hp : t.IsFolder p)
    (hh : u.here = t.here)
    (hg : ∀ q, u.get? q = if q = p then some (.folder now) else t.get? q) : t.Grows u := by
  have hup : u.IsFolder p := ⟨now, by rw [hg, if_pos rfl]⟩
  constructor
  · apply keeps_of_get? now hh
    intro q _
    by_cases hqp : q = p
    · exact .inl (by rw [hg, if_pos hqp])
    · exact .inr (by rw [hg, if_neg hqp])
  · intro q
    by_cases hqp : q = p
    · rw [hqp, hp.file?, hup.file?]
    · exact file?_congr (by rw [hg, if_neg hqp])

theorem gains_of_get? {t u : Tree} {p : Place} {name : String} {bytes : List UInt8}
    {now : Instant} (hp : t.IsFolder p) (hf : ¬ t.IsFolder (name :: p)) (hh : u.here = t.here)
    (hg : ∀ q, u.get? q = if q = p then some (.folder now)
      else if q = name :: p then some (.file bytes now) else t.get? q) :
    t.Gains u (name :: p) bytes now := by
  have hup : u.IsFolder p := ⟨now, by rw [hg, if_pos rfl]⟩
  constructor
  · apply keeps_of_get? now hh
    intro q hq
    by_cases hqp : q = p
    · exact .inl (by rw [hg, if_pos hqp])
    · have hne : q ≠ name :: p := fun he => hf (he ▸ hq)
      exact .inr (by rw [hg, if_neg hqp, if_neg hne])
  · intro q
    by_cases hqp : q = p
    · rw [hqp, if_neg (place_ne name p).symm, hp.file?, hup.file?]
    · by_cases hqn : q = name :: p
      · rw [if_pos hqn, hqn, file?_eq_some, hg, if_neg (place_ne name p), if_pos rfl]
      · rw [if_neg hqn]
        exact file?_congr (by rw [hg, if_neg hqp, if_neg hqn])

theorem moveOver_join {t : Tree} {folder source name : String} {n : Node}
    (hr : t.Reaches folder) (hn : IsPlain name)
    (hs : t.get? (source :: t.home folder) = some n) (now : Instant) :
    t.moveOver (t.home folder) source (join folder name) now =
      if (t.get? (name :: t.home folder)).any Node.isFolder then .error .isFolder
      else .ok ((t.unlink (t.home folder) source now).link (t.home folder) name n now) := by
  simp only [moveOver, locateEntry_join hn hr, bind, Except.bind, hs, hn.2.1, hn.2.2.1,
    decide_false, Bool.false_or]
  split <;> rfl

end RdapDirectory.Files.Tree

namespace RdapDirectory.Cache.Disk

open Files Tree

variable {d : Disk} {t : Tree} {name : String}

theorem place_of_reaches (hr : t.Reaches d.folder) : d.place t = .ok (t.home d.folder) := by
  unfold place
  by_cases he : d.folder = ""
  · rw [he]
    rfl
  · simp only [String.isEmpty_iff, he, if_false]
    exact locate_of_reaches he hr

theorem replace_spec (hr : t.Reaches d.folder) (hn : IsPlain name) (bytes : List UInt8)
    (now : Instant) :
    (t.IsFolder (name :: t.home d.folder) ∧
      ∃ u, d.replace t name bytes now = (.error .isFolder, u) ∧ u.here = t.here ∧
        ∀ q, u.get? q = if q = t.home d.folder then some (.folder now) else t.get? q) ∨
    (¬ t.IsFolder (name :: t.home d.folder) ∧
      ∃ u, d.replace t name bytes now = (.ok (), u) ∧ u.here = t.here ∧
        ∀ q, u.get? q = if q = t.home d.folder then some (.folder now)
          else if q = name :: t.home d.folder then some (.file bytes now) else t.get? q) := by
  obtain ⟨-, -, hfree⟩ := freshName_spec t (t.home d.folder)
  set p := t.home d.folder with hp
  set fresh := t.freshName p with hfresh
  -- The tree with the new file in it.
  set v := t.link p fresh (.file bytes now) now with hv
  have hvr : v.Reaches d.folder := reaches_link_file hr hfree bytes now now
  have hhome : v.home d.folder = p := home_congr (here_link ..) _
  have hnew : v.get? (fresh :: p) = some (.file bytes now) := by
    rw [hv, get?_link hr.2, if_neg (place_ne fresh p), if_pos rfl]
  have hmove := moveOver_join hvr hn (hhome ▸ hnew) now
  rw [hhome] at hmove
  have hback : ∀ q, (v.unlink p fresh now).get? q =
      if q = p then some (.folder now) else t.get? q :=
    get?_unlink_link hr.2 hfree (.file bytes now) now
  have hfolder : v.IsFolder (name :: p) ↔ t.IsFolder (name :: p) :=
    isFolder_link_file hr.2 hfree bytes now now _
  by_cases hf : t.IsFolder (name :: p)
  · left
    refine ⟨hf, v.unlink p fresh now, ?_, ?_, hback⟩
    · rw [if_pos (any_isFolder.2 (hfolder.2 hf))] at hmove
      simp only [replace, place_of_reaches hr, path, ← hp, ← hfresh, ← hv, hmove]
    · rw [here_unlink, here_link]
  · right
    refine ⟨hf, (v.unlink p fresh now).link p name (.file bytes now) now, ?_, ?_, fun q => ?_⟩
    · rw [if_neg (mt any_isFolder.1 (mt hfolder.1 hf))] at hmove
      simp only [replace, place_of_reaches hr, path, ← hp, ← hfresh, ← hv, hmove]
    · rw [here_link, here_unlink, here_link]
    · have hup : (v.unlink p fresh now).IsFolder p := ⟨now, by rw [hback, if_pos rfl]⟩
      rw [get?_link hup, hback]
      by_cases hq : q = p <;> simp [hq]

theorem modified_eq_ok (hn : IsPlain name) {changed : Instant} :
    d.modified t name = .ok changed ↔ t.Reaches d.folder ∧
      ∃ n, t.get? (name :: t.home d.folder) = some n ∧ n.modified = changed := by
  unfold modified path
  constructor
  · intro h
    cases hs : t.stat (join d.folder name) with
    | error e =>
      rw [hs] at h
      cases h
    | ok n =>
      obtain ⟨hr, hg⟩ := (stat_join_eq_ok hn).1 hs
      rw [hs] at h
      exact ⟨hr, n, hg, Except.ok.inj h⟩
  · rintro ⟨hr, n, hg, rfl⟩
    rw [(stat_join_eq_ok hn).2 ⟨hr, hg⟩]
    rfl

theorem save_of_reaches (hr : t.Reaches d.folder) (hn : IsPlain name) (bytes : List UInt8)
    (now : Instant) :
    (t.IsFolder (name :: t.home d.folder) ∧
      ∃ u, d.save t name bytes now = (.error (writeFault name .isFolder), d, u) ∧
        u.here = t.here ∧
        ∀ q, u.get? q = if q = t.home d.folder then some (.folder now) else t.get? q) ∨
    (¬ t.IsFolder (name :: t.home d.folder) ∧
      ∃ u, d.save t name bytes now = (.ok (), d.see name now, u) ∧ u.here = t.here ∧
        ∀ q, u.get? q = if q = t.home d.folder then some (.folder now)
          else if q = name :: t.home d.folder then some (.file bytes now) else t.get? q) := by
  have hprep : d.prepare t now = (.ok (), t) := by
    simp only [prepare, makeFolders_of_reaches hr]
  rcases replace_spec hr hn bytes now with ⟨hf, u, hu, hh, hg⟩ | ⟨hf, u, hu, hh, hg⟩
  · refine .inl ⟨hf, u, ?_, hh, hg⟩
    simp only [save, hprep, hu]
  · have hur : u.Reaches d.folder := hr.mono (gains_of_get? hr.2 hf hh hg).toKeeps
    have hm : d.modified u name = .ok now := by
      refine (modified_eq_ok hn).2 ⟨hur, .file bytes now, ?_, rfl⟩
      rw [home_congr hh, hg, if_neg (place_ne name _), if_pos rfl]
    refine .inr ⟨hf, u, ?_, hh, hg⟩
    simp only [save, hprep, hu, hm]

theorem save_of_makeFolders {u : Tree} (hh : t.IsFolder t.here) (bytes : List UInt8)
    {now : Instant} (h : t.makeFolders d.folder now = (.ok (), u)) :
    d.save t name bytes now = d.save u name bytes now := by
  have hu := makeFolders_of_reaches (makeFolders_reaches hh h) now
  simp only [save, prepare, h, hu]

theorem save_cases (hh : t.IsFolder t.here) (hn : IsPlain name) (bytes : List UInt8)
    (now : Instant) :
    (∃ e u, d.save t name bytes now = (.error e, d, u) ∧ t.Grows u) ∨
    (∃ u, d.save t name bytes now = (.ok (), d.see name now, u) ∧ u.Reaches d.folder ∧
      t.Gains u (name :: t.home d.folder) bytes now) := by
  have hgrow := makeFolders_grows t d.folder now
  cases hm : t.makeFolders d.folder now with
  | mk r v =>
    rw [hm] at hgrow
    cases r with
    | error e =>
      exact .inl ⟨d.folderFault e, v, by simp only [save, prepare, hm], hgrow⟩
    | ok _ =>
      have hr := makeFolders_reaches hh hm
      have hhome : v.home d.folder = t.home d.folder := home_congr hgrow.here _
      rw [save_of_makeFolders hh bytes hm]
      rcases save_of_reaches hr hn bytes now with ⟨-, u, hu, hhere, hg⟩ | ⟨hf, u, hu, hhere, hg⟩
      · exact .inl ⟨_, u, hu, hgrow.trans (grows_of_get? hr.2 hhere hg)⟩
      · have hgain := gains_of_get? hr.2 hf hhere hg
        refine .inr ⟨u, hu, hr.mono hgain.toKeeps, ?_⟩
        rw [← hhome]
        exact hgrow.gains hgain

end RdapDirectory.Cache.Disk
