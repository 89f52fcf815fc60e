import RdapDirectory.Proofs.CacheContent

namespace RdapDirectory.Files.Tree

/-- The folder is there, or there is nothing that could be in it. Once it is made, if it has to be,
it holds these files and nothing else. -/
def Lists (t : Tree) (folder : String) (files : String → Option (List UInt8 × Instant)) : Prop :=
  (t.Reaches folder ∨ ∀ name, files name = none) ∧
    ∀ now, ∃ u, t.makeFolders folder now = (.ok (), u) ∧
      ∀ name, u.get? (name :: t.home folder) = (files name).map fun x => .file x.1 x.2

variable {t u : Tree} {folder name : String} {files : String → Option (List UInt8 × Instant)}

theorem lists_of_reaches (hr : t.Reaches folder)
    (hg : ∀ name, t.get? (name :: t.home folder) = (files name).map fun x => .file x.1 x.2) :
    t.Lists folder files :=
  ⟨.inl hr, fun now => ⟨t, makeFolders_of_reaches hr now, hg⟩⟩

theorem Lists.get? (h : t.Lists folder files) (hr : t.Reaches folder) (name : String) :
    t.get? (name :: t.home folder) = (files name).map fun x => .file x.1 x.2 := by
  obtain ⟨u, hu, hg⟩ := h.2 0
  cases (makeFolders_of_reaches hr 0).symm.trans hu
  exact hg name

theorem walk_of_grows (h : t.Grows u) {p q : Place} {ss : List String}
    (hu : u.walk p ss = .ok q) : t.walk p ss = .ok q ∨ t.walk p ss = .error .missing := by
  induction ss generalizing p with
  | nil => exact .inl hu
  | cons s ss ih =>
    obtain ⟨hf, hrest⟩ := walk_cons_eq_ok.1 hu
    rw [walk]
    cases hg : t.get? p with
    | none => exact .inr rfl
    | some n =>
      cases n with
      | file bytes changed =>
        have hfile : u.file? p = some (bytes, changed) := by
          rw [h.file, file?_eq_some, hg]
        rw [hf.file?] at hfile
        cases hfile
      | folder _ => exact ih hrest

theorem stat_join_of_reaches (hr : t.Reaches folder) (hn : IsPlain name) :
    t.stat (join folder name) = match t.get? (name :: t.home folder) with
      | some n => .ok n
      | none => .error .missing := by
  unfold stat
  rw [(locate_join_eq_ok hn).2 ⟨hr, rfl⟩]
  simp only [bind, Except.bind]
  cases t.get? (name :: t.home folder) <;> rfl

theorem stat_join_of_grows (h : t.Grows u) (hu : u.Reaches folder) (hr : ¬ t.Reaches folder)
    (hn : IsPlain name) : t.stat (join folder name) = .error .missing := by
  have hlocate : t.locate (join folder name) = .error .missing := by
    have hpath : u.walk (t.origin folder) (leading folder ++ [name]) =
        .ok (name :: t.home folder) := by
      rw [← origin_congr h.here, ← home_congr h.here]
      exact (walk_join_eq_ok hn).2 ⟨hu, rfl⟩
    rcases walk_of_grows h hpath with hw | hw
    · exact absurd ((walk_join_eq_ok hn).1 hw).1 hr
    · simpa only [locate, String.isEmpty_iff, join_ne_empty hn, if_false, origin_join hn,
        steps_join hn] using hw
  unfold stat
  rw [hlocate]
  rfl

theorem Lists.stat (h : t.Lists folder files) (hh : t.IsFolder t.here) (hn : IsPlain name) :
    t.stat (join folder name) = match files name with
      | some x => .ok (.file x.1 x.2)
      | none => .error .missing := by
  by_cases hr : t.Reaches folder
  · rw [stat_join_of_reaches hr hn, h.get? hr]
    cases files name <;> rfl
  · have hnone := h.1.resolve_left hr name
    obtain ⟨u, hu, -⟩ := h.2 0
    have hgrow := makeFolders_grows t folder 0
    rw [hu] at hgrow
    rw [stat_join_of_grows hgrow (makeFolders_reaches hh hu) hr hn, hnone]

end RdapDirectory.Files.Tree

namespace RdapDirectory.Cache.Disk

open Files Tree

variable {d : Disk} {t : Tree} {name : String} {files : String → Option (List UInt8 × Instant)}

theorem modified_of_lists (h : t.Lists d.folder files) (hh : t.IsFolder t.here)
    (hn : IsPlain name) : d.modified t name = match files name with
      | some x => .ok x.2
      | none => .error .missing := by
  unfold modified path
  rw [h.stat hh hn]
  cases files name <;> rfl

theorem load_of_lists (h : t.Lists d.folder files) (hh : t.IsFolder t.here) (hn : IsPlain name) :
    d.load t name = match files name with
      | some x => (.ok x.1, d.see name x.2)
      | none => (.error (.cache name "not found in cache"), d) := by
  have hread : t.read (d.path name) = match files name with
      | some x => .ok x.1
      | none => .error .missing := by
    unfold Tree.read path
    rw [h.stat hh hn]
    cases files name <;> rfl
  unfold load
  rw [modified_of_lists h hh hn, hread]
  cases files name <;> rfl

theorem save_of_lists (h : t.Lists d.folder files) (hh : t.IsFolder t.here) (hn : IsPlain name)
    (bytes : List UInt8) (now : Instant) :
    ∃ u, d.save t name bytes now = (.ok (), d.see name now, u) ∧ t.Keeps u ∧
      u.Reaches d.folder ∧ ∀ other, u.get? (other :: t.home d.folder) =
        (if other = name then some (bytes, now) else files other).map fun x => .file x.1 x.2 := by
  obtain ⟨v, hv, hg⟩ := h.2 now
  have hgrow := makeFolders_grows t d.folder now
  rw [hv] at hgrow
  have hr := makeFolders_reaches hh hv
  have hhome : v.home d.folder = t.home d.folder := home_congr hgrow.here _
  rw [save_of_makeFolders hh bytes hv]
  rcases save_of_reaches hr hn bytes now with ⟨⟨changed, hf⟩, -⟩ | ⟨hf, u, hu, hhere, hget⟩
  · rw [hhome, hg] at hf
    obtain ⟨x, -, hx⟩ := Option.map_eq_some_iff.1 hf
    cases hx
  · have hgain := gains_of_get? hr.2 hf hhere hget
    refine ⟨u, hu, hgrow.toKeeps.trans hgain.toKeeps, hr.mono hgain.toKeeps, fun other => ?_⟩
    rw [← hhome, hget, if_neg (place_ne other _), hhome]
    by_cases ho : other = name
    · simp [ho]
    · simp [ho, hg]

end RdapDirectory.Cache.Disk
