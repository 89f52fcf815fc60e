import RdapDirectory.Proofs.Acts
import RdapDirectory.Proofs.Turns

namespace RdapDirectory.System

open Files Cache Client
open Registry (Kind)

variable {ι : Type}

structure Orderly (s : System ι) : Prop where
  here : s.tree.IsFolder s.tree.here
  shared : ∀ i j, i ≠ j → (s.clients i).cache.SameFolder s.tree (s.clients j).cache
  client : ∀ i, (s.clients i).Orderly s.tree

theorem Starts.orderly {s : System ι} (h : s.Starts) : s.Orderly :=
  ⟨h.here, h.shared, fun i => (h.fresh i).orderly s.tree⟩

variable [DecidableEq ι]

structure Called (s : System ι) (m : Moment) (a : Act ι) (i : ι) (c : Client) (w : World) :
    Prop where
  after : s.after m a = s.put i c w
  kept : (s.clients i).Kept c
  keeps : s.tree.Keeps w.tree
  now : w.now = m.now
  turn : ∀ k, ((s.clients i).Same c s.tree w.tree k ∧
      (s.reads a = some (i, k) → (s.clients i).UpToDate s.tree k m.now)) ∨
    (s.reads a = some (i, k) ∧
      ∃ bytes changed, (s.clients i).Looked c s.tree w.tree k m.now bytes changed) ∨
    ∃ bytes r, c.Renewed w.tree k m.now bytes r

theorem called_of_wants {s : System ι} {a : Act ι} {i : ι} {l : Kind}
    (hw : s.wants a = some (i, l)) (hh : s.tree.IsFolder s.tree.here) (m : Moment) :
    ∃ c w, s.Called m a i c w := by
  have hr := reads_of_wants hw
  obtain ⟨hafter, -⟩ := provide_of_wants hw m
  obtain ⟨hkept, hkeeps, hnow⟩ := provide_kept (s.clients i) l (w := s.world m) hh
  refine ⟨_, _, hafter, hkept, hkeeps, hnow, fun k => ?_⟩
  rcases provide_turn (s.clients i) l (w := s.world m) hh k with ⟨h, hu⟩ | ⟨rfl, h | h⟩
  · refine .inl ⟨h, fun he => hu ?_⟩
    cases hr.symm.trans he
    rfl
  · exact .inr (.inl ⟨hr, h⟩)
  · exact .inr (.inr h)

theorem exists_called {s : System ι} {a : Act ι} {i : ι} (ha : a.caller? = some i)
    (hh : s.tree.IsFolder s.tree.here) (m : Moment) : ∃ c w, s.Called m a i c w := by
  cases a with
  | lookup j l query =>
    obtain rfl : j = i := Option.some.inj ha
    exact called_of_wants (l := l) rfl hh m
  | resolve j q =>
    obtain rfl : j = i := Option.some.inj ha
    cases hw : s.wants (.resolve j q) with
    | none =>
      have hq : q.url? ≠ none ∨ (s.clients j).registryFor? q = none := by
        simp only [wants] at hw
        split at hw
        · rename_i hu
          exact .inl (Option.isSome_iff_ne_none.1 hu)
        · exact .inr (Option.map_eq_none_iff.1 hw)
      obtain ⟨x, hx⟩ := resolve_of_not_registryFor? hq (s.world m)
      refine ⟨s.clients j, s.world m, ?_, .refl _, .refl _, rfl, fun k => .inl ⟨.refl _ _ _, ?_⟩⟩
      · simp only [System.after, hx]
      · intro hr
        cases hw.symm.trans hr
    | some p =>
      obtain ⟨i, l⟩ := p
      obtain rfl : j = i := Option.some.inj (caller?_of_reads (reads_of_wants hw))
      exact called_of_wants hw hh m
  | download j l =>
    obtain rfl : j = i := Option.some.inj ha
    obtain ⟨hkept, hkeeps, hnow⟩ := download_kept (s.clients j) l (w := s.world m) hh
    refine ⟨_, _, rfl, hkept, hkeeps, hnow, fun k => ?_⟩
    rcases download_turn (s.clients j) l (w := s.world m) hh k with h | ⟨-, h⟩
    · exact .inl ⟨h, fun hr => by cases hr⟩
    · exact .inr (.inr h)
  | registry j l =>
    obtain rfl : j = i := Option.some.inj ha
    refine ⟨_, _, rfl, refresh_kept _ l _, .refl _, rfl, fun k => ?_⟩
    rcases refresh_turn (s.clients j) l (s.world m) k with ⟨h, hu⟩ | ⟨rfl, h⟩
    · refine .inl ⟨h, fun hr => hu ?_⟩
      cases hr
      rfl
    · exact .inr (.inl ⟨rfl, h⟩)
  | write t => cases ha

theorem act_cases {s : System ι} (hh : s.tree.IsFolder s.tree.here) (m : Moment) (a : Act ι) :
    (∃ t, a = .write t) ∨ ∃ i, a.caller? = some i ∧ ∃ c w, s.Called m a i c w := by
  cases a with
  | write t => exact .inl ⟨t, rfl⟩
  | lookup i | resolve i | download i | registry i => exact .inr ⟨i, rfl, exists_called rfl hh m⟩

theorem Called.shared {s : System ι} {m : Moment} {a : Act ι} {i : ι} {c : Client} {w : World}
    (h : s.Called m a i c w) (hs : s.Orderly) {x y : ι} (hne : x ≠ y) :
    ((s.after m a).clients x).cache.SameFolder (s.after m a).tree
      ((s.after m a).clients y).cache := by
  have hxy := (hs.shared x y hne).mono h.keeps
  rw [h.after]
  by_cases hx : x = i
  · subst hx
    rw [clients_put_same, clients_put_other _ hne.symm]
    exact hxy.alike h.kept.alike
  · rw [clients_put_other _ hx]
    by_cases hy : y = i
    · subst hy
      rw [clients_put_same]
      exact (hxy.symm.alike h.kept.alike).symm
    · rw [clients_put_other _ hy]
      exact hxy

theorem Called.content {s : System ι} {m : Moment} {a : Act ι} {i : ι} {c : Client} {w : World}
    (h : s.Called m a i c w) (hs : s.Orderly) (j : ι) (k : Kind) :
    (s.after m a).content j k = s.content j k ∨
    ∃ bytes r, Registry.read k bytes = .ok r ∧
      (s.after m a).content j k = some (bytes, m.now) := by
  have hown : (s.after m a).content i k = s.content i k ∨ ∃ bytes r,
      Registry.read k bytes = .ok r ∧ (s.after m a).content i k = some (bytes, m.now) := by
    unfold System.content
    rw [h.after, clients_put_same]
    rcases h.turn k with ⟨ht, -⟩ | ⟨-, bytes, changed, ht⟩ | ⟨bytes, r, ht⟩
    · exact .inl ht.content
    · exact .inl ht.content
    · exact .inr ⟨bytes, r, ht.read, ht.content⟩
  by_cases hj : j = i
  · subst hj
    exact hown
  · have hbefore : s.content j k = s.content i k := (hs.shared j i hj).content? _
    have hafter : (s.after m a).content j k = (s.after m a).content i k :=
      (h.shared hs hj).content? _
    rw [hbefore, hafter]
    exact hown

/-- What an act can be to one client and one registry: somebody else's affair, a look at the
file, or the save of a new one. -/
inductive Change (s s' : System ι) (m : Moment) (a : Act ι) (i : ι) (k : Kind) : Prop where
  | aside (own : a.caller? = some i → s'.content i k = s.content i k)
      (upToDate : s.reads a = some (i, k) → (s.clients i).UpToDate s.tree k m.now)
      (seen : s'.seen i k = s.seen i k) (loaded : s'.loaded i k = s.loaded i k)
  | looked (bytes : List UInt8) (changed : Instant) (reads : s.reads a = some (i, k))
      (stored : s.stored i k = some (bytes, changed))
      (fresh : isExpired (s.clients i).cache.ttl changed m.now = false)
      (content : s'.content i k = s.content i k) (seen : s'.seen i k = some changed)
      (loaded : s'.loaded i k = match Registry.read k bytes with
        | .error _ => s.loaded i k
        | .ok r => some r)
  | renewed (bytes : List UInt8) (r : Registry) (caller : a.caller? = some i)
      (read : Registry.read k bytes = .ok r) (stored : s'.stored i k = some (bytes, m.now))
      (seen : s'.seen i k = some m.now) (loaded : s'.loaded i k = some r)

theorem change {s : System ι} (hs : s.Orderly) (m : Moment) (a : Act ι) (i : ι) (k : Kind) :
    s.Change (s.after m a) m a i k := by
  rcases act_cases hs.here m a with ⟨t, rfl⟩ | ⟨j, ha, c, w, h⟩
  · exact .aside (fun h => by cases h) (fun h => by cases h) rfl rfl
  · by_cases hj : i = j
    · subst hj
      have hc : (s.after m a).clients i = c := by rw [h.after, clients_put_same]
      have ht : (s.after m a).tree = w.tree := by rw [h.after]; rfl
      rcases h.turn k with ⟨ht', hu⟩ | ⟨hr, bytes, changed, ht'⟩ | ⟨bytes, r, ht'⟩
      all_goals rw [← hc, ← ht] at ht'
      · exact .aside (fun _ => ht'.content) hu ht'.seen ht'.loaded
      · exact .looked bytes changed hr ht'.stored ht'.fresh ht'.content ht'.seen ht'.loaded
      · exact .renewed bytes r ha ht'.read ht'.stored ht'.seen ht'.loaded
    · have hc : (s.after m a).clients i = s.clients i := by
        rw [h.after, clients_put_other _ hj]
      refine .aside (fun he => ?_) (fun he => ?_) ?_ ?_
      · exact absurd (Option.some.inj (he.symm.trans ha)) hj
      · exact absurd (Option.some.inj ((caller?_of_reads he).symm.trans ha)) hj
      · unfold System.seen
        rw [hc]
      · unfold System.loaded
        rw [hc]

theorem content_isSome {s : System ι} (hs : s.Orderly) {a : Act ι} (ha : s.Allows a) (m : Moment)
    {i : ι} {k : Kind} (h : ∃ x, s.content i k = some x) :
    ∃ x, (s.after m a).content i k = some x := by
  rcases act_cases hs.here m a with ⟨t, rfl⟩ | ⟨j, -, c, w, hcall⟩
  · obtain ⟨x, hx⟩ := h
    exact ha.content i k x hx
  · rcases hcall.content hs i k with he | ⟨bytes, r, -, he⟩
    · rw [he]
      exact h
    · exact ⟨_, he⟩

theorem keeps_after {s : System ι} (hs : s.Orderly) {a : Act ι} (ha : s.Allows a) (m : Moment) :
    s.tree.Keeps (s.after m a).tree := by
  rcases act_cases hs.here m a with ⟨t, rfl⟩ | ⟨j, -, c, w, hcall⟩
  · exact ha.toKeeps
  · rw [hcall.after]
    exact hcall.keeps

theorem kept_after {s : System ι} (hs : s.Orderly) (m : Moment) (a : Act ι) (i : ι) :
    (s.clients i).Kept ((s.after m a).clients i) := by
  rcases act_cases hs.here m a with ⟨t, rfl⟩ | ⟨j, -, c, w, hcall⟩
  · exact .refl _
  · rw [hcall.after]
    by_cases hj : i = j
    · subst hj
      rw [clients_put_same]
      exact hcall.kept
    · rw [clients_put_other _ hj]
      exact .refl _

theorem Orderly.after {s : System ι} (hs : s.Orderly) {a : Act ι} (ha : s.Allows a) (m : Moment) :
    (s.after m a).Orderly := by
  have hkeeps := keeps_after hs ha m
  refine ⟨?_, fun x y hne => ?_, fun i => ⟨?_, fun k t ht => ?_⟩⟩
  · rw [hkeeps.here]
    exact hkeeps.folder _ hs.here
  · rcases act_cases hs.here m a with ⟨t, rfl⟩ | ⟨j, -, c, w, hcall⟩
    · exact (hs.shared x y hne).mono hkeeps
    · exact hcall.shared hs hne
  · have hkept := kept_after hs m a i
    rw [hkept.ttl, hkept.settings]
    exact (hs.client i).ttl
  · cases change hs m a i k with
    | aside _ _ hseen =>
      exact content_isSome hs ha m ((hs.client i).seen k t (hseen.symm.trans ht))
    | looked bytes changed _ hstored =>
      exact content_isSome hs ha m ⟨_, content_of_stored hstored⟩
    | renewed bytes r _ _ hstored => exact ⟨_, content_of_stored hstored⟩

theorem Run.rec_orderly {P : System ι → Moment → Act ι → Prop} {Q : System ι → Prop}
    {s₀ s : System ι} (hr : Run P s₀ s) (h₀ : s₀.Orderly) (hq : Q s₀)
    (step : ∀ s m a, s.Orderly → s.Allows a → P s m a → Q s → Q (s.after m a)) :
    s.Orderly ∧ Q s := by
  induction hr with
  | refl => exact ⟨h₀, hq⟩
  | tail _ hstep ih =>
    obtain ⟨m, a, ha, hp, rfl⟩ := hstep
    exact ⟨ih.1.after ha m, step _ m a ih.1 ha hp ih.2⟩

end RdapDirectory.System
