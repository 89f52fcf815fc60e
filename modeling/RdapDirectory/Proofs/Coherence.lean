import RdapDirectory.Proofs.Sharing

namespace RdapDirectory.System

open Files Cache Client
open Registry (Kind noServices)

variable {ι : Type}

def Advances (s s' : System ι) : Prop :=
  ∀ i k, s'.content i k = s.content i k ∨
    ∃ bytes changed, s'.content i k = some (bytes, changed) ∧
      ∀ b old, s.content i k = some (b, old) → old < changed

def OnlySound (s : System ι) : Prop :=
  ∀ i k bytes changed, s.content i k = some (bytes, changed) →
    ∃ r, Registry.read k bytes = .ok r

def Behind (s : System ι) (i : ι) : Prop :=
  ∀ k t, s.seen i k = some t →
    ∃ bytes changed, s.content i k = some (bytes, changed) ∧ t ≤ changed

/-- A client that has seen the current version of a file has the registry made from it. -/
def Coherent (s : System ι) (i : ι) : Prop :=
  ∀ k bytes changed, s.content i k = some (bytes, changed) →
    (s.clients i).cache.Current k.file changed →
    ∃ r, Registry.read k bytes = .ok r ∧ s.loaded i k = some r

theorem Starts.behind {s : System ι} (h : s.Starts) (i : ι) : s.Behind i := by
  intro k t ht
  rw [h.seen] at ht
  cases ht

theorem Starts.coherent {s : System ι} (h : s.Starts) (i : ι) : s.Coherent i := by
  rintro k bytes changed - ⟨t, ht, -⟩
  rw [show (s.clients i).cache.seen? k.file = none from h.seen i k] at ht
  cases ht

theorem refresh_coherent {s : System ι} (hv : s.OnlySound) {i : ι} (h : s.Coherent i)
    {m : Moment} {k : Kind} {bytes : List UInt8} {changed : Instant}
    (hs : s.stored i k = some (bytes, changed))
    (hx : isExpired (s.clients i).cache.ttl changed m.now = false) :
    ∃ r, Registry.read k bytes = .ok r ∧
      ((s.clients i).refresh k (s.world m)).2.loaded k = some r := by
  have hcontent := content_of_stored hs
  obtain ⟨r, hr⟩ := hv i k bytes changed hcontent
  refine ⟨r, hr, ?_⟩
  rcases (refresh_of_sound (w := s.world m) hs hx hr).2 with hl | ⟨hc, hsame, -⟩
  · exact hl
  · obtain ⟨r', hr', hl⟩ := h k bytes changed hcontent hc
    obtain rfl := Except.ok.inj (hr.symm.trans hr')
    rw [hsame]
    exact hl

theorem provide_coherent {s : System ι} (hs : s.Orderly) (hv : s.OnlySound) {i : ι}
    (h : s.Coherent i) {m : Moment} {k : Kind} {c : Client} {w : World}
    (hok : (s.clients i).provide k (s.world m) = (.ok (), c, w)) :
    ∃ bytes changed r, c.cache.stored? w.tree k.file = some (bytes, changed) ∧
      Registry.read k bytes = .ok r ∧ c.loaded k = some r := by
  by_cases hd : (s.clients i).Due s.tree k m.now
  · rw [provide_of_due (w := s.world m) (hs.client i) hd] at hok
    obtain ⟨bytes, r, hf⟩ := fetched_of_download (w := s.world m) hs.here hok
    have hnew := hf.renewed
    exact ⟨bytes, m.now, r, hnew.stored, hnew.read, hnew.loaded⟩
  · obtain ⟨bytes, changed, hst, hx⟩ := exists_of_not_due (hs.client i).ttl hd
    obtain ⟨r, hread, hl⟩ := refresh_coherent hv h (m := m) hst hx
    rw [provide_of_sound (w := s.world m) hst hx hread] at hok
    cases hok
    exact ⟨bytes, changed, r, (refresh_stored? ..).trans hst, hread, hl⟩

theorem Behind.lt {s : System ι} {i : ι} (h : s.Behind i) {k : Kind} {t later : Instant}
    (ht : s.seen i k = some t) (hlt : ∀ b old, s.content i k = some (b, old) → old < later) :
    t < later := by
  obtain ⟨b, old, hold, hle⟩ := h k t ht
  exact Int.lt_of_le_of_lt hle (hlt b old hold)

variable [DecidableEq ι]

theorem Behind.after {s : System ι} {i : ι} (h : s.Behind i) (hs : s.Orderly) {m : Moment}
    {a : Act ι} (hadv : a.caller? ≠ some i → s.Advances (s.after m a)) :
    (s.after m a).Behind i := by
  intro k t ht
  cases change hs m a i k with
  | aside own _ hseen =>
    have ht := hseen.symm.trans ht
    obtain ⟨bytes, changed, hc, hle⟩ := h k t ht
    by_cases hi : a.caller? = some i
    · exact ⟨bytes, changed, (own hi).trans hc, hle⟩
    · rcases hadv hi i k with he | ⟨b, later, he, hlt⟩
      · exact ⟨bytes, changed, he.trans hc, hle⟩
      · exact ⟨b, later, he, Int.le_of_lt (h.lt ht hlt)⟩
  | looked bytes changed _ hstored _ hcontent hseen =>
    obtain rfl := Option.some.inj (hseen.symm.trans ht)
    exact ⟨bytes, changed, hcontent.trans (content_of_stored hstored), Int.le_refl _⟩
  | renewed bytes r _ _ hstored hseen =>
    obtain rfl := Option.some.inj (hseen.symm.trans ht)
    exact ⟨bytes, m.now, content_of_stored hstored, Int.le_refl _⟩

theorem Coherent.after {s : System ι} {i : ι} (h : s.Coherent i) (hs : s.Orderly)
    (hb : s.Behind i) (hv : s.OnlySound) {m : Moment} {a : Act ι}
    (hadv : s.Advances (s.after m a)) : (s.after m a).Coherent i := by
  rintro k bytes changed hcontent ⟨t, ht, hle⟩
  cases change hs m a i k with
  | aside _ _ hseen hloaded =>
    have ht : s.seen i k = some t := hseen.symm.trans ht
    rw [hloaded]
    rcases hadv i k with he | ⟨b, later, he, hlt⟩
    · exact h k bytes changed (he.symm.trans hcontent) ⟨t, ht, hle⟩
    · cases he.symm.trans hcontent
      exact absurd (hb.lt ht hlt) (Int.not_lt.2 hle)
  | looked b c _ hstored _ hsame _ hloaded =>
    have hcontent := hsame.symm.trans hcontent
    obtain ⟨rfl, rfl⟩ :=
      Prod.mk.inj (Option.some.inj ((content_of_stored hstored).symm.trans hcontent))
    obtain ⟨r, hr⟩ := hv i k b c hcontent
    rw [hr] at hloaded
    exact ⟨r, hr, hloaded⟩
  | renewed b r _ hread hstored _ hloaded =>
    obtain ⟨rfl, -⟩ :=
      Prod.mk.inj (Option.some.inj ((content_of_stored hstored).symm.trans hcontent))
    exact ⟨r, hread, hloaded⟩

def Faithful (s : System ι) (m : Moment) (a : Act ι) : Prop :=
  s.Advances (s.after m a) ∧ (s.after m a).OnlySound

theorem faithful_of_call {s : System ι} (hs : s.Orderly) (hv : s.OnlySound) {a : Act ι} {i : ι}
    (ha : a.caller? = some i) {m : Moment}
    (hold : ∀ j k b old, s.content j k = some (b, old) → old < m.now) : Faithful s m a := by
  obtain ⟨c, w, h⟩ := exists_called ha hs.here m
  constructor
  · intro j k
    rcases h.content hs j k with he | ⟨bytes, r, -, he⟩
    · exact .inl he
    · exact .inr ⟨bytes, m.now, he, hold j k⟩
  · intro j k bytes changed hc
    rcases h.content hs j k with he | ⟨b, r, hr, he⟩
    · exact hv j k bytes changed (he.symm.trans hc)
    · obtain ⟨rfl, -⟩ := Prod.mk.inj (Option.some.inj (he.symm.trans hc))
      exact ⟨r, hr⟩

theorem Run.coherent {s₀ s : System ι} (hr : Run Faithful s₀ s) (h₀ : s₀.Starts)
    (hv : s₀.OnlySound) :
    s.Orderly ∧ s.OnlySound ∧ ∀ i, s.Behind i ∧ s.Coherent i := by
  refine hr.rec_orderly (Q := fun s => s.OnlySound ∧ ∀ i, s.Behind i ∧ s.Coherent i) h₀.orderly
    ⟨hv, fun i => ⟨h₀.behind i, h₀.coherent i⟩⟩ ?_
  rintro s m a hs - ⟨hadv, hsound⟩ ⟨hv, h⟩
  exact ⟨hsound, fun i => ⟨(h i).1.after hs fun _ => hadv, (h i).2.after hs (h i).1 hv hadv⟩⟩

theorem lookup_coherent {s₀ s : System ι} (h₀ : s₀.Starts) (hv : s₀.OnlySound)
    (hr : Run Faithful s₀ s) (m : Moment) (i : ι) (k : Kind) :
    (∀ query e c w, (s.clients i).provide k (s.world m) = (.error e, c, w) →
      (s.clients i).lookup k query (s.world m) = (.error e, c, w)) ∧
    (∀ query c w, (s.clients i).provide k (s.world m) = (.ok (), c, w) →
      ∃ bytes changed r, c.cache.stored? w.tree k.file = some (bytes, changed) ∧
        Registry.read k bytes = .ok r ∧ r.kind = k ∧ c.loaded k = some r ∧
        (s.clients i).lookup k query (s.world m) = (r.lookup query, c, w)) ∧
    ∀ bytes changed, s.stored i k = some (bytes, changed) →
      (s.clients i).freshness k (s.world m) = .good ∨
        (s.clients i).freshness k (s.world m) = .outdated →
      ∃ r, Registry.read k bytes = .ok r ∧ r.kind = k ∧
        ((s.clients i).registry k (s.world m)).1 = some r := by
  obtain ⟨hs, hsound, hall⟩ := hr.coherent h₀ hv
  refine ⟨fun query e c w h => lookup_of_not_provided h query, fun query c w h => ?_,
    fun bytes changed hst hf => ?_⟩
  · obtain ⟨bytes, changed, r, hst, hread, hl⟩ := provide_coherent hs hsound (hall i).2 h
    exact ⟨bytes, changed, r, hst, hread, Registry.kind_of_read hread, hl,
      lookup_of_provided h hl query⟩
  · have hx := (freshness_good_or_outdated hst).1 hf
    obtain ⟨r, hread, hl⟩ := refresh_coherent hsound (hall i).2 (m := m) hst hx
    exact ⟨r, hread, Registry.kind_of_read hread, hl⟩

def pair : System Bool where
  clients _ := withParts .initial (.disk (.inFolder "cache" Settings.defaultTtl))
  tree := .root 0
  now := 0

theorem pair_starts : pair.Starts :=
  ⟨fun _ => ⟨_, _, rfl, fun _ => rfl⟩, ⟨0, rfl⟩, fun _ _ _ => ⟨rfl, fun _ _ => .rfl⟩⟩

theorem pair_content (i : Bool) (k : Kind) : pair.content i k = none := by
  cases k <;> rfl

def Moment.giving (now : Instant) (body : List UInt8) : Moment where
  now
  site _ := { result := some (.ok ⟨200, "OK", body⟩) }
  cancelled := false

def pairFetched : System Bool := pair.after (.giving 1 noServices) (.lookup true .dns "example.cz")

theorem pair_onlySound : pair.OnlySound := by
  intro i k bytes changed h
  rw [pair_content] at h
  cases h

theorem pairFetched_run : Run Faithful pair pairFetched := by
  refine (Run.refl pair).act (a := .lookup true .dns "example.cz") trivial ?_
  apply faithful_of_call pair_starts.orderly pair_onlySound (i := true) rfl
  intro j k b old h
  rw [pair_content] at h
  cases h

theorem pairFetched_lookup :
    let r := (pairFetched.clients false).provide .dns (pairFetched.world (.giving 2 []))
    r.1 = .ok () ∧ r.2.2.asked = [] ∧ Run Faithful pair pairFetched ∧
      ∃ bytes changed registry, r.2.1.cache.stored? r.2.2.tree "dns.json" = some (bytes, changed) ∧
        Registry.read .dns bytes = .ok registry ∧
        ((pairFetched.clients false).lookup .dns "example.cz"
          (pairFetched.world (.giving 2 []))).1 = registry.lookup "example.cz" := by
  have hok : ((pairFetched.clients false).provide .dns
      (pairFetched.world (.giving 2 []))).1 = .ok () := by decide +kernel
  obtain ⟨-, hanswer, -⟩ :=
    lookup_coherent pair_starts pair_onlySound pairFetched_run (.giving 2 []) false .dns
  obtain ⟨bytes, changed, registry, hst, hread, -, -, hl⟩ :=
    hanswer "example.cz" _ _ (Prod.ext hok rfl)
  exact ⟨hok, by decide +kernel, pairFetched_run, bytes, changed, registry, hst, hread, by rw [hl]⟩

end RdapDirectory.System
