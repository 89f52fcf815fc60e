import RdapDirectory.Proofs.AtomicSteps

/-!
Caches at work on one folder, each in the middle of a call: the tree after any step holds the
files that have been moved into place, and one for each save under way.
-/

namespace RdapDirectory.Files.Tree

theorem file?_link {t : Tree} {p : Place} (hp : t.IsFolder p) (name : String)
    (bytes : List UInt8) (changed now : Instant) (q : Place) :
    (t.link p name (.file bytes changed) now).file? q =
      if q = name :: p then some (bytes, changed) else t.file? q := by
  have hg := get?_link hp name (.file bytes changed) now
  by_cases hq : q = p
  · subst hq
    rw [if_neg (place_ne name q).symm, hp.file?]
    exact IsFolder.file? ⟨now, by rw [hg, if_pos rfl]⟩
  · by_cases hn : q = name :: p
    · rw [if_pos hn, file?_eq_some, hg, if_neg hq, if_pos hn]
    · rw [if_neg hn]
      exact file?_congr (by rw [hg, if_neg hq, if_neg hn])

theorem file?_unlink {t : Tree} {p : Place} (hp : t.IsFolder p) (name : String) (now : Instant)
    (q : Place) : (t.unlink p name now).file? q = if q = name :: p then none else t.file? q := by
  have hg := get?_unlink hp name now
  by_cases hq : q = p
  · subst hq
    rw [if_neg (place_ne name q).symm, hp.file?]
    exact IsFolder.file? ⟨now, by rw [hg, if_pos rfl]⟩
  · by_cases hn : q = name :: p
    · rw [if_pos hn, file?, hg, if_neg hq, if_pos hn]
    · rw [if_neg hn]
      exact file?_congr (by rw [hg, if_neg hq, if_neg hn])

theorem isFolder_unlink {t : Tree} {p : Place} (hp : t.IsFolder p) (name : String)
    (now : Instant) : (t.unlink p name now).IsFolder p :=
  ⟨now, by rw [get?_unlink hp, if_pos rfl]⟩

theorem get?_link_unlink {t : Tree} {p : Place} (hp : t.IsFolder p) (source name : String)
    (n : Node) (now : Instant) (q : Place) :
    ((t.unlink p source now).link p name n now).get? q = if q = p then some (.folder now)
      else if q = name :: p then some n
      else if q = source :: p then none else t.get? q := by
  rw [get?_link (isFolder_unlink hp source now), get?_unlink hp]
  by_cases hq : q = p <;> simp [hq]

end RdapDirectory.Files.Tree

namespace RdapDirectory.Cache

open Files Tree

def IsTemporary (name : String) : Prop := ".tmp".toList <+: name.toList

instance (name : String) : Decidable (IsTemporary name) := inferInstanceAs (Decidable (_ <+: _))

def IsLasting (name : String) : Prop := IsPlain name ∧ ¬ IsTemporary name

instance (name : String) : Decidable (IsLasting name) := inferInstanceAs (Decidable (_ ∧ _))

theorem isTemporary_freshName (t : Tree) (p : Place) : IsTemporary (t.freshName p) := by
  obtain ⟨n, hn, -⟩ := freshName_spec t p
  rw [IsTemporary, hn, String.toList_append]
  exact List.prefix_append ..

structure Crew (ι : Type) where
  worker : ι → Worker
  tree : Tree
  latest : Instant

namespace Crew

inductive Act (ι : Type) where
  | load (i : ι) (name : String)
  | save (i : ι) (name : String) (bytes : List UInt8)
  | step (i : ι)

variable {ι : Type}

/-- One call at a time, and no two files written at the same time. -/
def Allows (s : Crew ι) (now : Instant) : Act ι → Prop
  | .load i name | .save i name _ => (s.worker i).job.atRest = true ∧ IsLasting name
  | .step i => (s.worker i).job.isPrepared = true → s.latest < now

def latestAfter (s : Crew ι) (now : Instant) (job : Job) : Instant :=
  match job with
  | .prepared .. => now
  | _ => s.latest

variable [DecidableEq ι]

def put (s : Crew ι) (i : ι) (w : Worker) (t : Tree) (latest : Instant) : Crew ι :=
  ⟨Function.update s.worker i w, t, latest⟩

def after (s : Crew ι) (now : Instant) : Act ι → Crew ι
  | .load i name => s.put i ((s.worker i).goOn (.loading name)) s.tree s.latest
  | .save i name bytes => s.put i ((s.worker i).goOn (.saving name bytes)) s.tree s.latest
  | .step i =>
    let (w, t) := (s.worker i).step s.tree now
    s.put i w t (s.latestAfter now (s.worker i).job)

def Run (P : Crew ι → Act ι → Prop) : Crew ι → Crew ι → Prop :=
  Relation.ReflTransGen fun s s' => ∃ now a, s.Allows now a ∧ P s a ∧ s' = s.after now a

omit [DecidableEq ι] in
structure Starts (s : Crew ι) (p : Place) : Prop where
  reaches : ∀ i, s.tree.Reaches (s.worker i).disk.folder
  home : ∀ i, s.tree.home (s.worker i).disk.folder = p
  files : ∀ name, IsLasting name → ¬ s.tree.IsFolder (name :: p)
  old : ∀ name bytes changed, s.tree.file? (name :: p) = some (bytes, changed) →
    changed ≤ s.latest
  fresh : ∀ i, ∃ folder ttl, s.worker i = ⟨.inFolder folder ttl, .idle, fun _ => none⟩

structure Scene (ι : Type) where
  worker : ι → Worker
  file : String → Option Version
  latest : Instant

def scene (s : Crew ι) (p : Place) : Scene ι where
  worker := s.worker
  file name := if IsTemporary name then none else s.tree.file? (name :: p)
  latest := s.latest

namespace Scene

def put (v : Scene ι) (i : ι) (w : Worker) : Scene ι :=
  { v with worker := Function.update v.worker i w }

inductive Step (v : Scene ι) (i : ι) : Scene ι → Prop where
  | aside {job : Job} (blank : job.isBlank = true) : Step v i (v.put i ((v.worker i).goOn job))
  | look {name : String} {x : Version} (job : (v.worker i).job = .loading name)
      (file : v.file name = some x) : Step v i (v.put i ((v.worker i).goOn (.found name x.2)))
  | read {name : String} {changed : Instant} {x : Version}
      (job : (v.worker i).job = .found name changed) (file : v.file name = some x) :
      Step v i (v.put i ((v.worker i).goOn (.held name changed x)))
  | load {name : String} {changed : Instant} {x : Version}
      (job : (v.worker i).job = .held name changed x) :
      Step v i (v.put i ((v.worker i).finish name changed (.loaded x)))
  | write {name : String} {bytes : List UInt8} {now : Instant} {q : Place} {source : String}
      (job : (v.worker i).job = .prepared name bytes) (late : v.latest < now) :
      Step v i { v.put i ((v.worker i).goOn (.written name (bytes, now) q source)) with
        latest := now }
  | move {name : String} {x : Version} {q : Place} {source : String}
      (job : (v.worker i).job = .written name x q source) :
      Step v i { v.put i ((v.worker i).goOn (.moved name x)) with
        file := Function.update v.file name (some x) }
  | check {name : String} {x y : Version} (job : (v.worker i).job = .moved name x)
      (file : v.file name = some y) :
      Step v i (v.put i ((v.worker i).goOn (.looked name x y.2)))
  | save {name : String} {changed : Instant} {x : Version}
      (job : (v.worker i).job = .looked name x changed) :
      Step v i (v.put i ((v.worker i).finish name changed (.saved x)))

end Scene

structure Sound (s : Crew ι) (p : Place) : Prop where
  reaches : ∀ i, s.tree.Reaches (s.worker i).disk.folder
  home : ∀ i, s.tree.home (s.worker i).disk.folder = p
  files : ∀ name, IsLasting name → ¬ s.tree.IsFolder (name :: p)
  named : ∀ i, ∀ name ∈ (s.worker i).job.name?, IsLasting name
  source : ∀ i name v q source, (s.worker i).job = .written name v q source →
    q = p ∧ IsTemporary source ∧ s.tree.get? (source :: p) = some (.file v.1 v.2)
  apart : ∀ i j name v q source name' v' q' source', i ≠ j →
    (s.worker i).job = .written name v q source →
    (s.worker j).job = .written name' v' q' source' → source ≠ source'

variable {s : Crew ι} {p : Place}

omit [DecidableEq ι] in
theorem Starts.sound (h : s.Starts p) : s.Sound p := by
  have hjob : ∀ i, (s.worker i).job = .idle := by
    intro i
    obtain ⟨folder, ttl, hw⟩ := h.fresh i
    rw [hw]
  refine ⟨h.reaches, h.home, h.files, fun i name hn => ?_, fun i name v q source hw => ?_,
    fun i j name v q source name' v' q' source' _ hw => ?_⟩
  · rw [hjob] at hn
    cases hn
  · cases (hjob i).symm.trans hw
  · cases (hjob i).symm.trans hw

omit [DecidableEq ι] in
theorem Sound.get?_eq (hs : s.Sound p) {name : String} (hn : IsLasting name) :
    s.tree.get? (name :: p) = ((s.scene p).file name).map fun x => .file x.1 x.2 := by
  simp only [scene, hn.2, if_false, file?]
  cases hg : s.tree.get? (name :: p) with
  | none => rfl
  | some n =>
    cases n with
    | file => rfl
    | folder changed => exact absurd ⟨changed, hg⟩ (hs.files name hn)

omit [DecidableEq ι] in
theorem Sound.stat_eq (hs : s.Sound p) (i : ι) {name : String} (hn : IsLasting name) :
    s.tree.stat ((s.worker i).disk.path name) = match (s.scene p).file name with
      | some x => .ok (.file x.1 x.2)
      | none => .error .missing := by
  rw [Disk.path, stat_join_of_reaches (hs.reaches i) hn.1, hs.home, hs.get?_eq hn]
  cases (s.scene p).file name <;> rfl

omit [DecidableEq ι] in
theorem Sound.modified_eq (hs : s.Sound p) (i : ι) {name : String} (hn : IsLasting name) :
    (s.worker i).disk.modified s.tree name = match (s.scene p).file name with
      | some x => .ok x.2
      | none => .error .missing := by
  rw [Disk.modified, hs.stat_eq i hn]
  cases (s.scene p).file name <;> rfl

omit [DecidableEq ι] in
structure OwnSource (s : Crew ι) (p : Place) (i : ι) (w : Worker) (u : Tree) : Prop where
  there : ∀ name v q source, w.job = .written name v q source →
    q = p ∧ IsTemporary source ∧ u.get? (source :: p) = some (.file v.1 v.2)
  apart : ∀ j name v q source name' v' q' source', j ≠ i → w.job = .written name v q source →
    (s.worker j).job = .written name' v' q' source' → source' ≠ source

theorem Sound.put (hs : s.Sound p) {i : ι} {w : Worker} {u : Tree} (latest : Instant)
    (hk : s.tree.Keeps u) (hf : w.disk.folder = (s.worker i).disk.folder)
    (hn : ∀ name ∈ w.job.name?, IsLasting name)
    (hfiles : ∀ name, IsLasting name → ¬ u.IsFolder (name :: p)) (hown : s.OwnSource p i w u)
    (hothers : ∀ j name v q source, j ≠ i → (s.worker j).job = .written name v q source →
      u.get? (source :: p) = s.tree.get? (source :: p)) : (s.put i w u latest).Sound p := by
  have hworker : ∀ j, (s.put i w u latest).worker j = if j = i then w else s.worker j :=
    fun j => Function.update_apply ..
  refine ⟨fun j => ?_, fun j => ?_, hfiles, fun j => ?_, fun j name v q source hj => ?_,
    fun j k name v q source name' v' q' source' hne hj hk => ?_⟩
  · rw [hworker]
    split
    · exact hf ▸ (hs.reaches i).mono hk
    · exact (hs.reaches j).mono hk
  · rw [hworker, ← hs.home j]
    split
    · rename_i hj
      rw [hf, hj]
      exact home_congr hk.here _
    · exact home_congr hk.here _
  · rw [hworker]
    split
    · exact hn
    · exact hs.named j
  · rw [hworker] at hj
    split at hj
    · exact hown.there name v q source hj
    · rename_i hne
      obtain ⟨hq, ht, hg⟩ := hs.source j name v q source hj
      exact ⟨hq, ht, (hothers j name v q source hne hj).trans hg⟩
  · rw [hworker] at hj hk
    split at hj
    · rename_i hji
      rw [if_neg fun hki => hne (hji.trans hki.symm)] at hk
      exact (hown.apart k _ _ _ _ _ _ _ _ (fun hki => hne (hji.trans hki.symm)) hj hk).symm
    · split at hk
      · rename_i hji hki
        exact hown.apart j _ _ _ _ _ _ _ _ hji hk hj
      · exact hs.apart j k _ _ _ _ _ _ _ _ hne hj hk

omit [DecidableEq ι] in
theorem ownSource_of_not_written (s : Crew ι) (p : Place) (i : ι) {w : Worker} (u : Tree)
    (hw : w.job.isWritten = false) : s.OwnSource p i w u := by
  constructor
  · intro name v q source h
    rw [h] at hw
    cases hw
  · intro j name v q source name' v' q' source' _ h
    rw [h] at hw
    cases hw

theorem Sound.put_same (hs : s.Sound p) {i : ι} {w : Worker} (latest : Instant)
    (hf : w.disk.folder = (s.worker i).disk.folder) (hn : ∀ name ∈ w.job.name?, IsLasting name)
    (hw : w.job.isWritten = false) : (s.put i w s.tree latest).Sound p :=
  hs.put latest (.refl _) hf hn hs.files (ownSource_of_not_written s p i _ hw)
    fun _ _ _ _ _ _ _ => rfl

theorem scene_put {i : ι} {w : Worker} {u : Tree} {latest : Instant}
    (hu : ∀ name, ¬ IsTemporary name → u.file? (name :: p) = s.tree.file? (name :: p)) :
    (s.put i w u latest).scene p = { (s.scene p).put i w with latest } := by
  simp only [scene, Scene.put, put]
  congr 1
  funext name
  by_cases ht : IsTemporary name
  · simp [ht]
  · simp [ht, hu name ht]

theorem Sound.write (hs : s.Sound p) {i : ι} {name : String} {bytes : List UInt8}
    (hj : (s.worker i).job = .prepared name bytes) {now : Instant} (hlate : s.latest < now) :
    (s.after now (.step i)).Sound p ∧ (s.scene p).Step i ((s.after now (.step i)).scene p) := by
  have hp : s.tree.IsFolder p := hs.home i ▸ (hs.reaches i).2
  obtain ⟨-, -, hfree⟩ := freshName_spec s.tree p
  have htemp := isTemporary_freshName s.tree p
  set source := s.tree.freshName p with hsource
  set u := s.tree.link p source (.file bytes now) now with hu
  have hstep : (s.worker i).step s.tree now =
      ((s.worker i).goOn (.written name (bytes, now) p source), u) := by
    simp only [Worker.step, hj, Disk.place_of_reaches (hs.reaches i), hs.home, ← hsource, ← hu]
  have hafter : s.after now (.step i) =
      s.put i ((s.worker i).goOn (.written name (bytes, now) p source)) u now := by
    simp only [after, hstep, hj, latestAfter]
  have hfolder : ∀ q, u.IsFolder q ↔ s.tree.IsFolder q := isFolder_link_file hp hfree bytes now now
  have hget := get?_link hp source (.file bytes now) now
  rw [hafter]
  constructor
  · refine hs.put now ⟨here_link .., fun q => (hfolder q).2⟩ rfl (fun n hn => ?_)
      (fun n hn => mt (hfolder _).1 (hs.files n hn)) ⟨fun n v q src h => ?_, ?_⟩ ?_
    · exact hs.named i n (hj ▸ hn)
    · cases h
      refine ⟨rfl, htemp, ?_⟩
      rw [hu, hget, if_neg (place_ne source p), if_pos rfl]
    · intro j n v q src n' v' q' src' _ h hj' he
      cases h
      have hthere := (hs.source j n' v' q' src' hj').2.2
      rw [he, hfree] at hthere
      cases hthere
    · intro j n v q src _ hj'
      have hthere := (hs.source j n v q src hj').2.2
      have hne : src ≠ source := by
        rintro rfl
        rw [hfree] at hthere
        cases hthere
      rw [hu, hget, if_neg (place_ne src p), if_neg fun he => hne (List.cons.inj he).1]
  · have hfile : ∀ n, ¬ IsTemporary n → u.file? (n :: p) = s.tree.file? (n :: p) := by
      intro n hn
      rw [hu, file?_link hp, if_neg]
      rintro he
      exact hn ((List.cons.inj he).1 ▸ htemp)
    rw [scene_put hfile]
    exact .write hj hlate

theorem scene_move (hp : s.tree.IsFolder p) (i : ι) (w : Worker) {name source : String}
    (hn : IsLasting name) (ht : IsTemporary source) (v : Version) (now : Instant) :
    (s.put i w ((s.tree.unlink p source now).link p name (.file v.1 v.2) now) s.latest).scene p =
      { (s.scene p).put i w with file := Function.update (s.scene p).file name (some v) } := by
  simp only [scene, Scene.put, put]
  congr 1
  funext n
  by_cases htemp : IsTemporary n
  · have hne : n ≠ name := fun he => hn.2 (he ▸ htemp)
    simp [htemp, Function.update_of_ne hne]
  · rw [if_neg htemp, file?_link (isFolder_unlink hp source now), file?_unlink hp]
    by_cases he : n = name
    · simp [he]
    · have hsource : n ≠ source := fun he => htemp (he ▸ ht)
      simp [he, htemp, hsource]

theorem Sound.move (hs : s.Sound p) {i : ι} {name : String} {v : Version} {q : Place}
    {source : String} (hj : (s.worker i).job = .written name v q source) (now : Instant) :
    (s.after now (.step i)).Sound p ∧ (s.scene p).Step i ((s.after now (.step i)).scene p) := by
  have hp : s.tree.IsFolder p := hs.home i ▸ (hs.reaches i).2
  have hn : IsLasting name := hs.named i name (by rw [hj]; rfl)
  obtain ⟨rfl, htemp, hthere⟩ := hs.source i name v q source hj
  have hget := get?_link_unlink hp source name (.file v.1 v.2) now
  have hscene := scene_move hp i ((s.worker i).goOn (.moved name v)) hn htemp v now
  set u := (s.tree.unlink q source now).link q name (.file v.1 v.2) now with hu
  have hstep : (s.worker i).step s.tree now = ((s.worker i).goOn (.moved name v), u) := by
    have hhome := hs.home i
    have hmove := moveOver_join (hs.reaches i) hn.1 (hhome.symm ▸ hthere) now
    rw [hhome, if_neg (mt any_isFolder.1 (hs.files name hn))] at hmove
    simp only [Worker.step, hj, Disk.path, hmove, ← hu]
  have hafter : s.after now (.step i) = s.put i ((s.worker i).goOn (.moved name v)) u s.latest := by
    simp only [after, hstep, hj, latestAfter]
  have hhere : u.here = s.tree.here := by rw [hu, here_link, here_unlink]
  rw [hafter]
  constructor
  · refine hs.put s.latest (keeps_of_get? now hhere fun r hr => ?_) rfl (fun n he => ?_)
      (fun n hlast hf => ?_) (ownSource_of_not_written s q i u rfl) ?_
    · rw [hget]
      by_cases hrq : r = q
      · exact .inl (if_pos hrq)
      · right
        have hrn : r ≠ name :: q := fun he => hs.files name hn (he ▸ hr)
        have hrs : r ≠ source :: q := by
          rintro rfl
          obtain ⟨changed, hr⟩ := hr
          cases hthere.symm.trans hr
        rw [if_neg hrq, if_neg hrn, if_neg hrs]
    · cases he
      exact hn
    · obtain ⟨changed, hf⟩ := hf
      rw [hget, if_neg (place_ne n q)] at hf
      split at hf
      · cases hf
      · split at hf
        · cases hf
        · exact hs.files n hlast ⟨changed, hf⟩
    · intro j n w r src hne hj'
      have hsrc := hs.source j n w r src hj'
      have hname : src ≠ name := fun he => hn.2 (he ▸ hsrc.2.1)
      rw [hget, if_neg (place_ne src q), if_neg fun he => hname (List.cons.inj he).1,
        if_neg fun he => hs.apart j i _ _ _ _ _ _ _ _ hne hj' hj (List.cons.inj he).1]
  · rw [hscene]
    exact .move hj

theorem Sound.step (hs : s.Sound p) {now : Instant} {i : ι} (ha : s.Allows now (.step i)) :
    (s.after now (.step i)).Sound p ∧ (s.scene p).Step i ((s.after now (.step i)).scene p) := by
  have hnamed := hs.named i
  -- What is to be shown where neither the tree nor the time of the last file changes.
  have hquiet : ∀ w : Worker, (s.worker i).step s.tree now = (w, s.tree) →
      s.latestAfter now (s.worker i).job = s.latest → w.disk.folder = (s.worker i).disk.folder →
      w.job.name? = none ∨ w.job.name? = (s.worker i).job.name? → w.job.isWritten = false →
      (s.scene p).Step i ((s.scene p).put i w) →
      (s.after now (.step i)).Sound p ∧ (s.scene p).Step i ((s.after now (.step i)).scene p) := by
    intro w hstep hlatest hf hname hw hscene
    have hn : ∀ name ∈ w.job.name?, IsLasting name := by
      rcases hname with he | he
      · rw [he]
        rintro name ⟨⟩
      · exact he ▸ hnamed
    simp only [after, hstep, hlatest]
    exact ⟨hs.put_same s.latest hf hn hw, hscene⟩
  cases hj : (s.worker i).job with
  | idle | ended =>
    have hsame : s.worker i = (s.worker i).goOn (s.worker i).job := rfl
    refine hquiet (s.worker i) (by simp only [Worker.step, hj]) (by rw [hj]; rfl) rfl (.inr rfl)
      (by rw [hj]; rfl) ?_
    rw [hsame]
    exact .aside (by rw [hj]; rfl)
  | loading name =>
    have hm := hs.modified_eq i (hnamed name (by rw [hj]; rfl))
    cases hf : (s.scene p).file name with
    | none =>
      exact hquiet ((s.worker i).goOn (.ended (.error (Disk.readFault name .missing))))
        (by simp only [Worker.step, hj, hm, hf]) (by rw [hj]; rfl) rfl (.inl rfl) rfl
        (.aside rfl)
    | some x =>
      exact hquiet ((s.worker i).goOn (.found name x.2)) (by simp only [Worker.step, hj, hm, hf])
        (by rw [hj]; rfl) rfl (.inr (by rw [hj]; rfl)) rfl (.look hj hf)
  | found name changed =>
    have hstat := hs.stat_eq i (hnamed name (by rw [hj]; rfl))
    cases hf : (s.scene p).file name with
    | none =>
      exact hquiet ((s.worker i).goOn (.ended (.error (Disk.readFault name .missing))))
        (by simp only [Worker.step, hj, hstat, hf]) (by rw [hj]; rfl) rfl (.inl rfl) rfl
        (.aside rfl)
    | some x =>
      exact hquiet ((s.worker i).goOn (.held name changed x))
        (by simp only [Worker.step, hj, hstat, hf]) (by rw [hj]; rfl) rfl
        (.inr (by rw [hj]; rfl)) rfl (.read hj hf)
  | held name changed v =>
    exact hquiet ((s.worker i).finish name changed (.loaded v)) (by simp only [Worker.step, hj])
      (by rw [hj]; rfl) rfl (.inl rfl) rfl (.load hj)
  | saving name bytes =>
    have hprepare : (s.worker i).disk.prepare s.tree now = (.ok (), s.tree) := by
      simp only [Disk.prepare, makeFolders_of_reaches (hs.reaches i)]
    exact hquiet ((s.worker i).goOn (.prepared name bytes))
      (by simp only [Worker.step, hj, hprepare]) (by rw [hj]; rfl) rfl
      (.inr (by rw [hj]; rfl)) rfl (.aside rfl)
  | prepared name bytes => exact hs.write hj (ha (by rw [hj]; rfl))
  | written name v q source => exact hs.move hj now
  | moved name v =>
    have hm := hs.modified_eq i (hnamed name (by rw [hj]; rfl))
    cases hf : (s.scene p).file name with
    | none =>
      exact hquiet ((s.worker i).goOn (.ended (.error (Disk.writeFault name .missing))))
        (by simp only [Worker.step, hj, hm, hf]) (by rw [hj]; rfl) rfl (.inl rfl) rfl
        (.aside rfl)
    | some x =>
      exact hquiet ((s.worker i).goOn (.looked name v x.2)) (by simp only [Worker.step, hj, hm, hf])
        (by rw [hj]; rfl) rfl (.inr (by rw [hj]; rfl)) rfl (.check hj hf)
  | looked name v changed =>
    exact hquiet ((s.worker i).finish name changed (.saved v)) (by simp only [Worker.step, hj])
      (by rw [hj]; rfl) rfl (.inl rfl) rfl (.save hj)

def Act.worker : Act ι → ι
  | .load i _ | .save i .. | .step i => i

theorem Sound.after (hs : s.Sound p) {now : Instant} {a : Act ι} (ha : s.Allows now a) :
    (s.after now a).Sound p ∧ (s.scene p).Step a.worker ((s.after now a).scene p) := by
  cases a with
  | load i name =>
    refine ⟨hs.put_same s.latest rfl ?_ rfl, .aside rfl⟩
    rintro n ⟨⟩
    exact ha.2
  | save i name bytes =>
    refine ⟨hs.put_same s.latest rfl ?_ rfl, .aside rfl⟩
    rintro n ⟨⟩
    exact ha.2
  | step i => exact hs.step ha

end Crew

end RdapDirectory.Cache
