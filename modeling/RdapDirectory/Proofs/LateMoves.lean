import RdapDirectory.Proofs.Interleavings

/-!
When a cache takes a file for good that is not the one it knows. It takes a file that is moved
into place late: after one written later, or between the move of another and the look that
follows it.
-/

namespace RdapDirectory.Cache.Crew

open Files Tree

variable {ι : Type}

def Belated (s : Crew ι) (p : Place) (i : ι) (name : String) : Prop :=
  ∃ noted y, (s.worker i).disk.seen.lookup name = some noted ∧
    s.tree.file? (name :: p) = some y ∧ y.2 < noted

def Overtaken (s : Crew ι) (p : Place) (i : ι) (name : String) : Prop :=
  ∃ x y, (s.worker i).taken name = some (.saved x) ∧ s.tree.file? (name :: p) = some y ∧
    (s.worker i).disk.seen.lookup name = some y.2 ∧ x.2 ≠ y.2

/-- Files are moved into place in the order of their writing, and not before the last one there
has been looked at by the one who moved it. -/
def InTurn (p : Place) (s : Crew ι) : Act ι → Prop
  | .step i => ∀ v ∈ (s.worker i).job.underWay?,
      (∀ y ∈ s.tree.file? (v.1 :: p), y.2 < v.2.2) ∧ ∀ j, (s.worker j).job.hasMoved v.1 = false
  | .load .. | .save .. => True

namespace Scene

def Reached (file : String → Option Version) (name : String) (t : Instant) : Prop :=
  ∃ y, file name = some y ∧ t ≤ y.2

def JobInOrder (file : String → Option Version) : Job → Prop
  | .found name noted | .held name noted _ => Reached file name noted
  | .moved name x => file name = some x
  | .looked name x noted => noted = x.2 ∧ Reached file name noted
  | _ => True

def RecordInOrder (file : String → Option Version) (w : Worker) (name : String) : Prop :=
  ∀ x, w.taken name = some x → ∃ noted, w.disk.seen.lookup name = some noted ∧
    Reached file name noted ∧ ∀ y, x = .saved y → noted = y.2

structure InOrder (v : Scene ι) : Prop where
  job : ∀ i, JobInOrder v.file (v.worker i).job
  record : ∀ i name, RecordInOrder v.file (v.worker i) name

variable {v u : Scene ι} {file : String → Option Version}

theorem Genuine.eq {ledger : String → Instant → List UInt8} {name : String} {x y : Version}
    (hx : v.Genuine ledger name x) (hy : v.Genuine ledger name y) (ht : x.2 = y.2) : x = y :=
  Prod.ext (hx.2.symm.trans (ht ▸ hy.2)) ht

theorem RecordInOrder.later {w : Worker} {name : String} (h : RecordInOrder v.file w name)
    (hr : ∀ t, Reached v.file name t → Reached file name t) : RecordInOrder file w name := by
  intro x hx
  obtain ⟨noted, hl, ht, hy⟩ := h x hx
  exact ⟨noted, hl, hr noted ht, hy⟩

theorem JobInOrder.later {job : Job} (h : JobInOrder v.file job)
    (hr : ∀ name t, Reached v.file name t → Reached file name t)
    (hm : ∀ name x, job = .moved name x → file name = v.file name) : JobInOrder file job := by
  cases job with
  | idle | ended | loading | saving | prepared | written => trivial
  | found | held => exact hr _ _ h
  | moved name x => exact (hm name x rfl).trans h
  | looked => exact ⟨h.1, hr _ _ h.2⟩

theorem recordInOrder_finish {w : Worker} {name : String} {noted : Instant} {x : Taken}
    (h : ∀ name, RecordInOrder file w name) (hr : Reached file name noted)
    (hx : ∀ y, x = .saved y → noted = y.2) (other : String) :
    RecordInOrder file (w.finish name noted x) other := by
  intro z hz
  rw [Worker.taken_finish] at hz
  rw [Worker.lookup_finish]
  by_cases ho : other = name
  · rw [if_pos ho] at hz ⊢
    cases hz
    exact ⟨noted, rfl, ho ▸ hr, hx⟩
  · rw [if_neg ho] at hz ⊢
    exact h other z hz

variable [DecidableEq ι]

theorem InOrder.put (h : v.InOrder) {i : ι} {w : Worker} {latest : Instant}
    (hr : ∀ name t, Reached v.file name t → Reached file name t)
    (hm : ∀ j name x, (v.worker j).job = .moved name x → file name = v.file name)
    (hjob : JobInOrder file w.job) (hrecord : ∀ name, RecordInOrder file w name) :
    InOrder ⟨Function.update v.worker i w, file, latest⟩ := by
  refine ⟨fun j => ?_, fun j name => ?_⟩
  · simp only [Function.update_apply]
    split
    · exact hjob
    · exact (h.job j).later hr (hm j)
  · simp only [Function.update_apply]
    split
    · exact hrecord name
    · exact (h.record j name).later (hr name)

theorem InOrder.quiet (h : v.InOrder) {i : ι} {w : Worker} (latest : Instant)
    (hjob : JobInOrder v.file w.job) (hrecord : ∀ name, RecordInOrder v.file w name) :
    InOrder ⟨Function.update v.worker i w, v.file, latest⟩ :=
  h.put (fun _ _ ht => ht) (fun _ _ _ _ => rfl) hjob hrecord

theorem InOrder.move (h : v.InOrder) (i : ι) {name : String} {x : Version}
    (hlate : ∀ y, v.file name = some y → y.2 < x.2)
    (hmoved : ∀ j y, (v.worker j).job ≠ .moved name y) :
    InOrder { v.put i ((v.worker i).goOn (.moved name x)) with
      file := Function.update v.file name (some x) } := by
  have hr : ∀ other t, Reached v.file other t →
      Reached (Function.update v.file name (some x)) other t := by
    rintro other t ⟨y, hy, ht⟩
    by_cases ho : other = name
    · subst ho
      exact ⟨x, Function.update_self .., ht.trans (hlate y hy).le⟩
    · exact ⟨y, by rw [Function.update_of_ne ho, hy], ht⟩
  refine h.put hr (fun j other y hj => ?_) (Function.update_self ..)
    fun other => (h.record i other).later (hr other)
  refine Function.update_of_ne ?_ ..
  rintro rfl
  exact hmoved j y hj

theorem InOrder.step (h : v.InOrder) {i : ι} (hs : v.Step i u)
    (hturn : ∀ name x q source, (v.worker i).job = .written name x q source →
      (∀ y, v.file name = some y → y.2 < x.2) ∧ ∀ j y, (v.worker j).job ≠ .moved name y) :
    u.InOrder := by
  have hjob := h.job i
  have hrecord := h.record i
  cases hs with
  | @aside job blank =>
    refine h.quiet _ ?_ hrecord
    cases job with
    | idle | ended | loading | saving | prepared => trivial
    | found | held | written | moved | looked => cases blank
  | look job file => exact h.quiet _ ⟨_, file, Int.le_refl _⟩ hrecord
  | read job file =>
    rw [job] at hjob
    exact h.quiet _ hjob hrecord
  | load job =>
    rw [job] at hjob
    refine h.quiet _ trivial (recordInOrder_finish hrecord hjob ?_)
    rintro y ⟨⟩
  | write job late => exact h.quiet _ trivial hrecord
  | move job =>
    obtain ⟨hlate, hmoved⟩ := hturn _ _ _ _ job
    exact h.move i hlate hmoved
  | @check name x y job file =>
    rw [job] at hjob
    have hxy : y = x := Option.some.inj (file.symm.trans hjob)
    exact h.quiet _ ⟨by rw [hxy], y, file, Int.le_refl _⟩ hrecord
  | save job =>
    rw [job] at hjob
    refine h.quiet _ trivial (recordInOrder_finish hrecord hjob.2 ?_)
    rintro y ⟨⟩
    exact hjob.1

end Scene

variable {s₀ s : Crew ι} {p : Place}

theorem scene_file {name : String} (hn : IsLasting name) :
    (s.scene p).file name = s.tree.file? (name :: p) :=
  if_neg hn.2

theorem Sound.freshness_good_iff (hs : s.Sound p) (i : ι) {name : String} (hn : IsLasting name)
    (now : Instant) : (s.worker i).disk.freshness s.tree name now = .good ↔
      ∃ noted y, s.tree.file? (name :: p) = some y ∧
        (s.worker i).disk.seen.lookup name = some noted ∧ y.2 ≤ noted ∧
        isExpired (s.worker i).disk.ttl y.2 now = false := by
  rw [Disk.freshness, hs.modified_eq i hn, scene_file hn]
  cases hf : s.tree.file? (name :: p) with
  | none => simp
  | some y =>
    cases hl : (s.worker i).disk.seen.lookup name with
    | none => cases he : isExpired (s.worker i).disk.ttl y.2 now <;> simp [he]
    | some noted =>
      cases he : isExpired (s.worker i).disk.ttl y.2 now <;>
        by_cases hle : y.2 ≤ noted <;> simp [he, hle]

theorem Sound.taken_of_good (hs : s.Sound p) {ledger : String → Instant → List UInt8}
    (hfits : (s.scene p).Fits ledger) (i : ι) {name : String} (hn : IsLasting name)
    {now : Instant} (hg : (s.worker i).disk.freshness s.tree name now = .good) :
    ∃ x y, (s.worker i).taken name = some x ∧ s.tree.file? (name :: p) = some y ∧
      (x.version = y ∨ s.Belated p i name ∨ s.Overtaken p i name) := by
  obtain ⟨noted, y, hy, hl, hle, -⟩ := (hs.freshness_good_iff i hn now).1 hg
  have hfile := hfits.file name y ((scene_file hn).trans hy)
  have hrecord := hfits.record i name
  unfold Scene.RecordFits at hrecord
  split at hrecord
  · cases hl.symm.trans hrecord
  · rename_i x hx
    obtain ⟨hgenuine, noted', hl', -, hagrees⟩ := hrecord
    cases hl.symm.trans hl'
    refine ⟨x, y, hx, hy, ?_⟩
    rcases hle.lt_or_eq with hlt | heq
    · exact .inr (.inl ⟨noted, y, hl, hy, hlt⟩)
    -- The file is of the time noted. A load has noted this of what it took, a save may have not.
    · cases x with
      | loaded z =>
        have hz : z.2 = noted := hagrees z rfl y ((scene_file hn).trans hy) heq
        exact .inl (hgenuine.eq hfile.1 (hz.trans heq.symm))
      | saved z =>
        by_cases hz : z.2 = y.2
        · exact .inl (hgenuine.eq hfile.1 hz)
        · exact .inr (.inr ⟨z, y, hx, hy, heq ▸ hl, hz⟩)

theorem Sound.good_of_late (hs : s.Sound p) (i : ι) {name : String} (hn : IsLasting name)
    {now : Instant} {y : Version} (hy : s.tree.file? (name :: p) = some y)
    (hlasts : isExpired (s.worker i).disk.ttl y.2 now = false)
    (hlate : s.Belated p i name ∨ s.Overtaken p i name) :
    (s.worker i).disk.freshness s.tree name now = .good := by
  have hgood := (hs.freshness_good_iff i hn now).2
  rcases hlate with ⟨noted, y', hl, hy', hlt⟩ | ⟨-, y', -, hy', hl, -⟩
  · cases hy.symm.trans hy'
    exact hgood ⟨noted, y, hy, hl, hlt.le, hlasts⟩
  · cases hy.symm.trans hy'
    exact hgood ⟨y.2, y, hy, hl, Int.le_refl _, hlasts⟩

theorem not_late (h : (s.scene p).InOrder) {i : ι} {name : String} (hn : IsLasting name) {x : Taken}
    (hx : (s.worker i).taken name = some x) : ¬ s.Belated p i name ∧ ¬ s.Overtaken p i name := by
  obtain ⟨noted, hl, ⟨z, hz, hle⟩, hsaved⟩ := h.record i name x hx
  have hfile : s.tree.file? (name :: p) = some z := scene_file hn ▸ hz
  constructor
  · rintro ⟨noted', y, hl', hy, hlt⟩
    cases hl.symm.trans hl'
    cases hfile.symm.trans hy
    exact Int.not_lt.2 hle hlt
  · rintro ⟨x', y, hx', hy, hl', hne⟩
    cases hx.symm.trans hx'
    cases hl.symm.trans hl'
    exact hne (hsaved x' rfl).symm

theorem Starts.inOrder (h : s.Starts p) : (s.scene p).InOrder := by
  refine ⟨fun i => ?_, fun i name x hx => ?_⟩
  · obtain ⟨folder, ttl, hw⟩ := h.fresh i
    simp only [scene, hw]
    trivial
  · obtain ⟨folder, ttl, hw⟩ := h.fresh i
    simp only [scene, hw] at hx
    cases hx

variable [DecidableEq ι]

theorem Run.inOrder (h₀ : s₀.Starts p) (h : Run (InTurn p) s₀ s) : (s.scene p).InOrder := by
  induction h with
  | refl => exact h₀.inOrder
  | @tail s t hrun hstep ih =>
    obtain ⟨now, a, hallows, hturn, rfl⟩ := hstep
    have hs : s.Sound p := (Run.fits h₀ hrun).1
    refine ih.step (hs.after hallows).2 fun name x q source hw => ?_
    cases a with
    | load i | save i =>
      change (s.worker i).job = _ at hw
      have hrest : (s.worker i).job.atRest = true := hallows.1
      rw [hw] at hrest
      cases hrest
    | step i =>
      change (s.worker i).job = _ at hw
      have hn : IsLasting name := hs.named i name (by rw [hw]; rfl)
      obtain ⟨hlate, hmoved⟩ := hturn (name, x) (by rw [hw]; rfl)
      refine ⟨fun y hy => hlate y (scene_file hn ▸ hy), fun j y hj => ?_⟩
      change (s.worker j).job = _ at hj
      have hnot := hmoved j
      rw [hj] at hnot
      simp [Job.hasMoved] at hnot

/-- What it takes for a cache to find a file good that is not the one that it has last loaded or
saved. Where moves are made in turn, there is no such file. -/
theorem good_of_interleaving (h₀ : s₀.Starts p) (h : Run (fun _ _ => True) s₀ s) (i : ι)
    {name : String} (hn : IsLasting name) (now : Instant) :
    let w := s.worker i
    (w.disk.freshness s.tree name now = .good → ∃ x y, w.taken name = some x ∧
      s.tree.file? (name :: p) = some y ∧
        (x.version = y ∨ s.Belated p i name ∨ s.Overtaken p i name)) ∧
    (∀ x y, w.taken name = some x → s.tree.file? (name :: p) = some y → x.version ≠ y →
      isExpired w.disk.ttl y.2 now = false →
      (w.disk.freshness s.tree name now = .good ↔
        s.Belated p i name ∨ s.Overtaken p i name)) ∧
    (Run (InTurn p) s₀ s → w.disk.freshness s.tree name now = .good →
      ∃ x, w.taken name = some x ∧ s.tree.file? (name :: p) = some x.version) := by
  obtain ⟨hs, ledger, hfits⟩ := Run.fits h₀ h
  intro w
  refine ⟨hs.taken_of_good hfits i hn, fun x y hx hy hne hlasts => ⟨fun hg => ?_, fun hlate => ?_⟩,
    fun hturn hg => ?_⟩
  · obtain ⟨x', y', hx', hy', hlate⟩ := hs.taken_of_good hfits i hn hg
    cases hx.symm.trans hx'
    cases hy.symm.trans hy'
    exact hlate.resolve_left hne
  · exact hs.good_of_late i hn hy hlasts hlate
  · obtain ⟨x, y, hx, hy, hlate⟩ := hs.taken_of_good hfits i hn hg
    obtain ⟨hbelated, hovertaken⟩ := not_late (Run.inOrder h₀ hturn) hn hx
    have hsame : x.version = y := hlate.resolve_right fun hh => hh.elim hbelated hovertaken
    exact ⟨x, hx, hsame ▸ hy⟩

instance (s : Crew ι) (now : Instant) (a : Act ι) : Decidable (s.Allows now a) :=
  match a with
  | .load .. | .save .. => inferInstanceAs (Decidable (_ ∧ _))
  | .step _ => inferInstanceAs (Decidable (_ → _))

instance [Fintype ι] (s : Crew ι) (a : Act ι) : Decidable (InTurn p s a) :=
  match a with
  | .load .. | .save .. => .isTrue trivial
  | .step i => inferInstanceAs (Decidable (∀ v ∈ (s.worker i).job.underWay?, _))

def play (s : Crew ι) : List (Instant × Act ι) → Crew ι
  | [] => s
  | (now, a) :: rest => (s.after now a).play rest

def Plays (P : Crew ι → Act ι → Prop) (s : Crew ι) : List (Instant × Act ι) → Prop
  | [] => True
  | (now, a) :: rest => s.Allows now a ∧ P s a ∧ (s.after now a).Plays P rest

instance (P : Crew ι → Act ι → Prop) [∀ s, DecidablePred (P s)] (s : Crew ι)
    (acts : List (Instant × Act ι)) : Decidable (s.Plays P acts) :=
  go s acts
where
  go (s : Crew ι) : (acts : List (Instant × Act ι)) → Decidable (s.Plays P acts)
    | [] => .isTrue trivial
    | (now, a) :: rest =>
      have := go (s.after now a) rest
      inferInstanceAs (Decidable (_ ∧ _ ∧ _))

theorem run_play {P : Crew ι → Act ι → Prop} {acts : List (Instant × Act ι)}
    (h : s.Plays P acts) : Run P s (s.play acts) := by
  induction acts generalizing s with
  | nil => exact .refl
  | cons x rest ih =>
    obtain ⟨hallows, hp, hrest⟩ := h
    exact .head ⟨x.1, x.2, hallows, hp, rfl⟩ (ih hrest)

def pair : Crew Bool where
  worker _ := ⟨.inFolder "cache" 1, .idle, fun _ => none⟩
  tree := ⟨[([], .folder 0), (["cache"], .folder 0)], []⟩
  latest := 0

theorem pair_starts : pair.Starts ["cache"] := by
  have hget : ∀ name, pair.tree.get? [name, "cache"] = none := by
    intro name
    simp [pair, Tree.get?, List.lookup]
  have hreaches : pair.tree.Reaches "cache" := ⟨rfl, 0, rfl⟩
  have hhome : pair.tree.home "cache" = ["cache"] := rfl
  refine ⟨fun _ => hreaches, fun _ => hhome, ?_, ?_, fun i => ⟨"cache", 1, rfl⟩⟩
  · rintro name - ⟨changed, hf⟩
    rw [hget] at hf
    cases hf
  · intro name bytes changed hf
    rw [Tree.file?, hget] at hf
    cases hf

def goingOn (n : Nat) (now : Instant) (i : ι) : List (Instant × Act ι) :=
  List.replicate n (now, .step i)

def lateMove : List (Instant × Act Bool) :=
  (1, .save true "dns.json" [1]) :: goingOn 2 1 true ++
    (2, .save false "dns.json" [2]) :: goingOn 5 2 false ++ goingOn 3 3 true

def lateLook : List (Instant × Act Bool) :=
  [(1, .save true "dns.json" [1]), (1, .step true), (1, .step true),
    (2, .save false "dns.json" [2]), (2, .step false), (2, .step false),
    (3, .step true), (3, .step false), (3, .step true), (3, .step true),
    (3, .step false), (3, .step false)]

def takingTurns : List (Instant × Act Bool) :=
  (1, .save true "dns.json" [1]) :: goingOn 5 1 true ++
    (2, .load false "dns.json") :: goingOn 1 2 false ++
    (3, .save true "dns.json" [2]) :: goingOn 5 3 true ++ goingOn 2 4 false ++
    (5, .load false "dns.json") :: goingOn 3 5 false

theorem pair_plays :
    pair.Plays (fun _ _ => True) lateMove ∧ pair.Plays (fun _ _ => True) lateLook ∧
      pair.Plays (fun _ _ => True) takingTurns ∧ pair.Plays (InTurn ["cache"]) takingTurns := by
  decide +kernel

theorem pair_hides_writes :
    (∃ s, Run (fun _ _ => True) pair s ∧ (∀ i, (s.worker i).job.atRest = true) ∧
      (s.worker false).disk.freshness s.tree "dns.json" 3 = .good ∧
      (s.worker false).taken "dns.json" = some (.saved ([2], 2)) ∧
      s.tree.file? ["dns.json", "cache"] = some ([1], 1)) ∧
    ∃ s, Run (fun _ _ => True) pair s ∧ (∀ i, (s.worker i).job.atRest = true) ∧
      (s.worker true).disk.freshness s.tree "dns.json" 3 = .good ∧
      (s.worker true).taken "dns.json" = some (.saved ([1], 1)) ∧
      s.tree.file? ["dns.json", "cache"] = some ([2], 2) :=
  ⟨⟨pair.play lateMove, run_play pair_plays.1, by decide +kernel⟩,
    ⟨pair.play lateLook, run_play pair_plays.2.1, by decide +kernel⟩⟩

theorem pair_good :
    ((pair.play lateMove).Belated ["cache"] false "dns.json" ∨
      (pair.play lateMove).Overtaken ["cache"] false "dns.json") ∧
    (∃ x y, ((pair.play lateLook).worker true).taken "dns.json" = some x ∧
      (pair.play lateLook).tree.file? ["dns.json", "cache"] = some y ∧
      (x.version = y ∨ (pair.play lateLook).Belated ["cache"] true "dns.json" ∨
        (pair.play lateLook).Overtaken ["cache"] true "dns.json")) ∧
    ∃ x, ((pair.play takingTurns).worker false).taken "dns.json" = some x ∧
      (pair.play takingTurns).tree.file? ["dns.json", "cache"] = some x.version := by
  have hname : IsLasting "dns.json" := by decide +kernel
  obtain ⟨hmove, hlook, hturns, hinTurn⟩ := pair_plays
  have hlate := good_of_interleaving pair_starts (run_play hmove) false hname 3
  have hown := good_of_interleaving pair_starts (run_play hlook) true hname 3
  have hpeer := good_of_interleaving pair_starts (run_play hturns) false hname 5
  refine ⟨?_, hown.1 (by decide +kernel), hpeer.2.2 (run_play hinTurn) (by decide +kernel)⟩
  have hgood : ((pair.play lateMove).worker false).disk.freshness (pair.play lateMove).tree
      "dns.json" 3 = .good := by decide +kernel
  exact (hlate.2.1 (.saved ([2], 2)) ([1], 1) (by decide +kernel) (by decide +kernel)
    (by decide) (by decide +kernel)).1 hgood

end RdapDirectory.Cache.Crew
