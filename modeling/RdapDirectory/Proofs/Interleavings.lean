import RdapDirectory.Proofs.Crews

/-!
What is known in the midst of calls: of each worker, how the time that it has noted of a file goes
with what it has read or written under that name.
-/

namespace RdapDirectory.Cache.Crew

open Files Tree

variable {ι : Type}

namespace Scene

def Placed (v : Scene ι) (t : Instant) : Prop :=
  t ≤ v.latest ∧ ∀ i name x q source, (v.worker i).job = .written name x q source → x.2 ≠ t

def Genuine (v : Scene ι) (ledger : String → Instant → List UInt8) (name : String) (x : Version) :
    Prop :=
  x.2 ≤ v.latest ∧ ledger name x.2 = x.1

def Agrees (v : Scene ι) (name : String) (noted : Instant) (x : Version) : Prop :=
  ∀ y, v.file name = some y → y.2 = noted → x.2 = noted

def JobFits (v : Scene ι) (ledger : String → Instant → List UInt8) : Job → Prop
  | .found _ noted => v.Placed noted
  | .held name noted x => v.Genuine ledger name x ∧ v.Placed noted ∧ v.Agrees name noted x
  | .written name x .. | .moved name x => v.Genuine ledger name x
  | .looked name x noted => v.Genuine ledger name x ∧ v.Placed noted
  | _ => True

/-- A load has noted the time of what it has read, or of something older. Of a save, this is not
known. -/
def RecordFits (v : Scene ι) (ledger : String → Instant → List UInt8) (w : Worker) (name : String) :
    Prop :=
  match w.taken name with
  | none => w.disk.seen.lookup name = none
  | some x => v.Genuine ledger name x.version ∧ ∃ noted, w.disk.seen.lookup name = some noted ∧
      v.Placed noted ∧ ∀ y, x = .loaded y → v.Agrees name noted y

structure Fits (v : Scene ι) (ledger : String → Instant → List UInt8) : Prop where
  file : ∀ name x, v.file name = some x → v.Genuine ledger name x ∧ v.Placed x.2
  job : ∀ i, v.JobFits ledger (v.worker i).job
  record : ∀ i name, v.RecordFits ledger (v.worker i) name
  apart : ∀ i j name x q source name' x' q' source', i ≠ j →
    (v.worker i).job = .written name x q source →
    (v.worker j).job = .written name' x' q' source' → x.2 ≠ x'.2

structure Onward (v u : Scene ι) (ledger ledger' : String → Instant → List UInt8) : Prop where
  latest : v.latest ≤ u.latest
  ledger : ∀ name t, t ≤ v.latest → ledger' name t = ledger name t
  placed : ∀ t, v.Placed t → u.Placed t
  file : ∀ name y, u.file name = some y → v.file name = some y ∨ ¬ v.Placed y.2

variable {v u : Scene ι} {ledger ledger' : String → Instant → List UInt8}

theorem Genuine.onward {name : String} {x : Version} (h : v.Genuine ledger name x)
    (ho : Onward v u ledger ledger') : u.Genuine ledger' name x :=
  ⟨Int.le_trans h.1 ho.latest, (ho.ledger name x.2 h.1).trans h.2⟩

theorem Agrees.onward {name : String} {noted : Instant} {x : Version} (h : v.Agrees name noted x)
    (hp : v.Placed noted) (ho : Onward v u ledger ledger') : u.Agrees name noted x := by
  intro y hy he
  rcases ho.file name y hy with hy | hn
  · exact h y hy he
  · exact absurd (he ▸ hp) hn

theorem JobFits.onward {job : Job} (h : v.JobFits ledger job) (ho : Onward v u ledger ledger') :
    u.JobFits ledger' job := by
  cases job with
  | idle | ended | loading | saving | prepared => trivial
  | found => exact ho.placed _ h
  | held => exact ⟨h.1.onward ho, ho.placed _ h.2.1, h.2.2.onward h.2.1 ho⟩
  | written | moved => exact Genuine.onward h ho
  | looked => exact ⟨h.1.onward ho, ho.placed _ h.2⟩

theorem RecordFits.onward {w : Worker} {name : String} (h : v.RecordFits ledger w name)
    (ho : Onward v u ledger ledger') : u.RecordFits ledger' w name := by
  unfold RecordFits at h ⊢
  split at h
  · exact h
  · obtain ⟨hx, noted, hl, hp, ha⟩ := h
    exact ⟨hx.onward ho, noted, hl, ho.placed _ hp, fun y hy => (ha y hy).onward hp ho⟩

theorem jobFits_of_isBlank {job : Job} (h : job.isBlank = true) : v.JobFits ledger job := by
  cases job with
  | idle | ended | loading | saving | prepared => trivial
  | found | held | written | moved | looked => cases h

theorem not_placed {i : ι} {name : String} {x : Version} {q : Place} {source : String}
    (h : (v.worker i).job = .written name x q source) : ¬ v.Placed x.2 :=
  fun hp => hp.2 i name x q source h rfl

theorem recordFits_finish {w : Worker} {name : String} {noted : Instant} {x : Taken}
    (h : ∀ name, v.RecordFits ledger w name) (hx : v.Genuine ledger name x.version)
    (hp : v.Placed noted) (ha : ∀ y, x = .loaded y → v.Agrees name noted y) (other : String) :
    v.RecordFits ledger (w.finish name noted x) other := by
  have hother := h other
  rw [RecordFits] at hother ⊢
  rw [Worker.taken_finish, Worker.lookup_finish]
  by_cases ho : other = name
  · subst ho
    simp only [if_true]
    exact ⟨hx, noted, rfl, hp, ha⟩
  · rw [if_neg ho, if_neg ho]
    exact hother

variable [DecidableEq ι]

theorem placed_put {i : ι} {w : Worker} (hw : w.job.isWritten = false) {t : Instant}
    (h : v.Placed t) : (v.put i w).Placed t := by
  refine ⟨h.1, fun j name x q source hj => ?_⟩
  simp only [put, Function.update_apply] at hj
  split at hj
  · rw [hj] at hw
    cases hw
  · exact h.2 j name x q source hj

theorem onward_put (i : ι) {w : Worker} (hw : w.job.isWritten = false) :
    Onward v (v.put i w) ledger ledger :=
  ⟨Int.le_refl _, fun _ _ _ => rfl, fun _ => placed_put hw, fun _ _ hy => .inl hy⟩

theorem Fits.put (h : v.Fits ledger) {i : ι} {w : Worker} {file : String → Option Version}
    {latest : Instant} (ho : Onward v ⟨Function.update v.worker i w, file, latest⟩ ledger ledger')
    (hjob : JobFits ⟨Function.update v.worker i w, file, latest⟩ ledger' w.job)
    (hrecord : ∀ name, RecordFits ⟨Function.update v.worker i w, file, latest⟩ ledger' w name)
    (hfile : ∀ name x, file name = some x → v.file name = some x ∨
      Genuine ⟨Function.update v.worker i w, file, latest⟩ ledger' name x ∧
        Placed ⟨Function.update v.worker i w, file, latest⟩ x.2)
    (hapart : ∀ name x q source, w.job = .written name x q source → v.latest < x.2) :
    Fits ⟨Function.update v.worker i w, file, latest⟩ ledger' := by
  have hold : ∀ j name x q source, (v.worker j).job = .written name x q source →
      x.2 ≤ v.latest := by
    intro j name x q source hj
    have hx := h.job j
    rw [hj] at hx
    exact hx.1
  refine ⟨fun name x hx => ?_, fun j => ?_, fun j name => ?_,
    fun j k name x q source name' x' q' source' hne hj hk => ?_⟩
  · rcases hfile name x hx with hx | hx
    · have hx := h.file name x hx
      exact ⟨hx.1.onward ho, ho.placed _ hx.2⟩
    · exact hx
  · simp only [Function.update_apply]
    split
    · exact hjob
    · exact (h.job j).onward ho
  · simp only [Function.update_apply]
    split
    · exact hrecord name
    · exact (h.record j name).onward ho
  · simp only [Function.update_apply] at hj hk
    split at hj
    · have hlt := hapart name x q source hj
      split at hk
      · rename_i hji hki
        exact absurd (hji.trans hki.symm) hne
      · exact (Int.lt_of_le_of_lt (hold _ _ _ _ _ hk) hlt).ne'
    · split at hk
      · exact (Int.lt_of_le_of_lt (hold _ _ _ _ _ hj) (hapart name' x' q' source' hk)).ne
      · exact h.apart j k _ _ _ _ _ _ _ _ hne hj hk

theorem Fits.quiet (h : v.Fits ledger) {i : ι} {w : Worker} (hw : w.job.isWritten = false)
    (hown : Onward v (v.put i w) ledger ledger → (v.put i w).JobFits ledger w.job ∧
      ∀ name, (v.put i w).RecordFits ledger w name) : ∃ ledger', (v.put i w).Fits ledger' := by
  have ho : Onward v (v.put i w) ledger ledger := onward_put i hw
  refine ⟨ledger, h.put ho (hown ho).1 (hown ho).2 (fun name x hx => .inl hx) ?_⟩
  intro name x q source hj
  rw [hj] at hw
  cases hw

theorem Fits.write (h : v.Fits ledger) (i : ι) (name : String) (bytes : List UInt8)
    {now : Instant} (q : Place) (source : String) (late : v.latest < now) :
    ∃ ledger', Fits { v.put i ((v.worker i).goOn (.written name (bytes, now) q source)) with
      latest := now } ledger' := by
  -- The time of the new file is nobody else's, so the ledger can tell its octets by it.
  have hne : ∀ t, v.Placed t → t ≠ now := fun t ht => (Int.lt_of_le_of_lt ht.1 late).ne
  have ho : Onward v ⟨Function.update v.worker i
      ((v.worker i).goOn (.written name (bytes, now) q source)), v.file, now⟩ ledger
      fun n t => if t = now then bytes else ledger n t := by
    refine ⟨late.le, fun n t ht => if_neg (Int.lt_of_le_of_lt ht late).ne, fun t ht => ?_,
      fun n y hy => .inl hy⟩
    refine ⟨ht.1.trans late.le, fun j n x q' source' hj => ?_⟩
    simp only [Function.update_apply] at hj
    split at hj
    · cases hj
      exact (hne t ht).symm
    · exact ht.2 j n x q' source' hj
  refine ⟨_, h.put ho ⟨Int.le_refl _, if_pos rfl⟩ (fun n => (h.record i n).onward ho)
    (fun n x hx => .inl hx) ?_⟩
  rintro n x q' source' ⟨⟩
  exact late

theorem Fits.move (h : v.Fits ledger) {i : ι} {name : String} {x : Version} {q : Place}
    {source : String} (job : (v.worker i).job = .written name x q source) :
    ∃ ledger', Fits { v.put i ((v.worker i).goOn (.moved name x)) with
      file := Function.update v.file name (some x) } ledger' := by
  have hjob : v.Genuine ledger name x := by
    have hjob := h.job i
    rwa [job] at hjob
  have ho : Onward v ⟨Function.update v.worker i ((v.worker i).goOn (.moved name x)),
      Function.update v.file name (some x), v.latest⟩ ledger ledger := by
    refine ⟨Int.le_refl _, fun _ _ _ => rfl, fun t ht => placed_put rfl ht, fun n y hy => ?_⟩
    simp only [Function.update_apply] at hy
    split at hy
    · cases hy
      exact .inr (not_placed job)
    · exact .inl hy
  refine ⟨ledger, h.put ho (hjob.onward ho) (fun n => (h.record i n).onward ho)
    (fun n y hy => ?_) ?_⟩
  · simp only [Function.update_apply] at hy
    split at hy
    · rename_i hn
      cases hy
      subst hn
      refine .inr ⟨hjob.onward ho, hjob.1, fun j n' y q' source' hj => ?_⟩
      simp only [Function.update_apply] at hj
      split at hj
      · cases hj
      · rename_i hji
        exact h.apart j i _ _ _ _ _ _ _ _ hji hj job
    · exact .inl hy
  · rintro n y q' source' ⟨⟩

theorem Fits.step (h : v.Fits ledger) {i : ι} (hs : v.Step i u) :
    ∃ ledger', u.Fits ledger' := by
  have hjob := h.job i
  have hrecord := h.record i
  cases hs with
  | @aside job blank =>
    refine h.quiet ?_ fun ho => ⟨jobFits_of_isBlank blank, fun name => (hrecord name).onward ho⟩
    cases job with
    | idle | ended | loading | saving | prepared | found | held | moved | looked => rfl
    | written => cases blank
  | look job file =>
    exact h.quiet rfl fun ho =>
      ⟨ho.placed _ (h.file _ _ file).2, fun name => (hrecord name).onward ho⟩
  | read job file =>
    rw [job] at hjob
    refine h.quiet rfl fun ho =>
      ⟨⟨(h.file _ _ file).1.onward ho, ho.placed _ hjob, ?_⟩, fun name => (hrecord name).onward ho⟩
    intro y hy he
    cases file.symm.trans hy
    exact he
  | load job =>
    rw [job] at hjob
    refine h.quiet rfl fun ho => ⟨trivial, recordFits_finish (fun name => (hrecord name).onward ho)
      (hjob.1.onward ho) (ho.placed _ hjob.2.1) ?_⟩
    rintro y ⟨⟩
    exact hjob.2.2.onward hjob.2.1 ho
  | @write name bytes now q source job late => exact h.write i name bytes q source late
  | move job => exact h.move job
  | check job file =>
    rw [job] at hjob
    exact h.quiet rfl fun ho => ⟨⟨Genuine.onward hjob ho, ho.placed _ (h.file _ _ file).2⟩,
      fun name => (hrecord name).onward ho⟩
  | save job =>
    rw [job] at hjob
    refine h.quiet rfl fun ho => ⟨trivial, recordFits_finish (fun name => (hrecord name).onward ho)
      (hjob.1.onward ho) (ho.placed _ hjob.2) ?_⟩
    rintro y ⟨⟩

end Scene

variable {s₀ s : Crew ι} {p : Place} {P : Crew ι → Act ι → Prop}

theorem Starts.fits (h : s.Starts p) : ∃ ledger, (s.scene p).Fits ledger := by
  have hidle : ∀ i, (s.worker i).job = .idle := by
    intro i
    obtain ⟨folder, ttl, hw⟩ := h.fresh i
    rw [hw]
  have hblank : ∀ i name x q source, (s.worker i).job ≠ .written name x q source := by
    intro i name x q source hw
    cases (hidle i).symm.trans hw
  refine ⟨fun name _ => ((s.scene p).file name).elim [] Prod.fst, fun name x hx => ?_, fun i => ?_,
    fun i name => ?_, fun i j name x q source _ _ _ _ _ hw => absurd hw (hblank i name x q source)⟩
  · have hlatest : x.2 ≤ s.latest := by
      simp only [scene] at hx
      split at hx
      · cases hx
      · exact h.old name x.1 x.2 hx
    refine ⟨⟨hlatest, by simp only [hx, Option.elim]⟩, hlatest, fun i name' x' q source hw => ?_⟩
    exact absurd hw (hblank i name' x' q source)
  · simp only [scene, hidle]
    trivial
  · obtain ⟨folder, ttl, hw⟩ := h.fresh i
    simp only [Scene.RecordFits, scene, hw]
    rfl

variable [DecidableEq ι]

theorem Run.fits (h₀ : s₀.Starts p) (h : Run P s₀ s) :
    s.Sound p ∧ ∃ ledger, (s.scene p).Fits ledger := by
  induction h with
  | refl => exact ⟨h₀.sound, h₀.fits⟩
  | tail _ hstep ih =>
    obtain ⟨now, a, hallows, -, rfl⟩ := hstep
    obtain ⟨hsound, ledger, hfits⟩ := ih
    have hafter := hsound.after hallows
    exact ⟨hafter.1, hfits.step hafter.2⟩

end RdapDirectory.Cache.Crew
