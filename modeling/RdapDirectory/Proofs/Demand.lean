import RdapDirectory.Proofs.Coherence

namespace RdapDirectory.System

open Files Cache Client
open Registry (Kind noServices)

variable {ι : Type}

theorem lookup_of_not_due {s : System ι} (hs : s.Orderly) (hv : s.OnlySound) {m : Moment} {i : ι}
    {k : Kind} (h : ¬ (s.clients i).Due s.tree k m.now) (query : String) :
    ((s.clients i).provide k (s.world m)).2.2 = s.world m ∧
      ∃ r : Registry, ((s.clients i).lookup k query (s.world m)).1 = r.lookup query := by
  obtain ⟨bytes, changed, hst, hx⟩ := exists_of_not_due (hs.client i).ttl h
  obtain ⟨r, hr⟩ := hv i k bytes changed (content_of_stored hst)
  have hprovide := provide_of_sound (w := s.world m) hst hx hr
  obtain ⟨r', hl⟩ : ∃ r', ((s.clients i).refresh k (s.world m)).2.loaded k = some r' := by
    rcases (refresh_of_sound (w := s.world m) hst hx hr).2 with hl | ⟨-, hsame, hl⟩
    · exact ⟨r, hl⟩
    · rw [hsame]
      exact Option.ne_none_iff_exists'.1 hl
  exact ⟨by rw [hprovide], r', by rw [lookup_of_provided hprovide hl]⟩

theorem lookup_of_due {s : System ι} (hs : s.Orderly) {m : Moment} {i : ι} {k : Kind}
    (h : (s.clients i).Due s.tree k m.now) {c : Client} {w : World}
    (hok : (s.clients i).provide k (s.world m) = (.ok (), c, w)) :
    ∃ bytes r, (s.clients i).Fetched c k (s.world m) w bytes r ∧
      ∀ query, ((s.clients i).lookup k query (s.world m)).1 = r.lookup query := by
  have hdone := hok
  rw [provide_of_due (w := s.world m) (hs.client i) h] at hdone
  obtain ⟨bytes, r, hf⟩ := fetched_of_download (w := s.world m) hs.here hdone
  refine ⟨bytes, r, hf, fun query => ?_⟩
  rw [lookup_of_provided hok hf.renewed.loaded]

variable [DecidableEq ι]

def Calls (s : System ι) (m : Moment) (a : Act ι) : Prop := s.now ≤ m.now ∧ a.caller? ≠ none

def Fetches (s : System ι) (m : Moment) (a : Act ι) (k : Kind) : Prop :=
  ∃ i, s.wants a = some (i, k) ∧ s.asked m a ≠ [] ∧
    ((s.clients i).provide k (s.world m)).1 = .ok ()

theorem called_of_calls {s : System ι} (hs : s.Orderly) {m : Moment} {a : Act ι}
    (h : Calls s m a) : ∃ i c w, s.Called m a i c w := by
  rcases act_cases hs.here m a with ⟨t, rfl⟩ | ⟨i, -, c, w, hcall⟩
  · exact absurd rfl h.2
  · exact ⟨i, c, w, hcall⟩

theorem Run.sound {s₀ s : System ι} (hr : Run Calls s₀ s) (h₀ : s₀.Starts) (hv : s₀.OnlySound) :
    s.Orderly ∧ s.OnlySound := by
  apply hr.rec_orderly h₀.orderly hv
  intro s m a hs _ hcalls hv j k bytes changed hc
  obtain ⟨i, c, w, hcall⟩ := called_of_calls hs hcalls
  rcases hcall.content hs j k with he | ⟨b, r, hr, he⟩
  · exact hv j k bytes changed (he.symm.trans hc)
  · cases he.symm.trans hc
    exact ⟨r, hr⟩

theorem asked_of_due {s : System ι} (hs : s.Orderly) {m : Moment} {a : Act ι} {i : ι} {k : Kind}
    (hw : s.wants a = some (i, k)) (h : (s.clients i).Due s.tree k m.now) :
    s.asked m a = if m.cancelled then [] else [(s.clients i).registryUrl k] := by
  rw [(provide_of_wants hw m).2, provide_of_due (w := s.world m) (hs.client i) h, asked_download]
  rfl

theorem asked_of_not_due {s : System ι} (hs : s.Orderly) (hv : s.OnlySound) {m : Moment}
    {a : Act ι} {i : ι} {k : Kind} (hw : s.wants a = some (i, k))
    (h : ¬ (s.clients i).Due s.tree k m.now) : s.asked m a = [] := by
  rw [(provide_of_wants hw m).2, (lookup_of_not_due hs hv h "").1]
  rfl

def SavedSince (k : Kind) (start : Instant) (s : System ι) : Prop :=
  start ≤ s.now ∧ ∀ i, ∃ bytes saved, s.stored i k = some (bytes, saved) ∧ start ≤ saved

theorem Fetches.savedSince {s : System ι} (hs : s.Orderly) (hv : s.OnlySound) {m : Moment}
    {a : Act ι} {k : Kind} (h : s.Fetches m a k) : SavedSince k m.now (s.after m a) := by
  obtain ⟨i, hw, hasked, hok⟩ := h
  have hdue : (s.clients i).Due s.tree k m.now := by
    by_contra hn
    exact hasked (asked_of_not_due hs hv hw hn)
  obtain ⟨bytes, r, hf, -⟩ := lookup_of_due hs hdue (Prod.ext hok rfl)
  have hafter := (provide_of_wants hw m).1
  have hstored : (s.after m a).stored i k = some (bytes, m.now) := by
    unfold System.stored
    rw [hafter, clients_put_same]
    exact hf.renewed.stored
  have hs' := hs.after (allows_of_wants hw) m
  constructor
  · rw [hafter]
    exact Int.le_of_eq hf.now.symm
  · intro j
    refine ⟨bytes, m.now, ?_, Int.le_refl _⟩
    by_cases hj : j = i
    · rw [hj]
      exact hstored
    · exact ((hs'.shared j i hj).stored? k.isPlain_file).trans hstored

theorem SavedSince.after {s : System ι} (hs : s.Orderly) {k : Kind} {start : Instant}
    (h : SavedSince k start s) {m : Moment} {a : Act ι} (hc : Calls s m a) :
    SavedSince k start (s.after m a) := by
  obtain ⟨j, c, w, hcall⟩ := called_of_calls hs hc
  have hlater := Int.le_trans h.1 hc.1
  constructor
  · rw [hcall.after]
    exact Int.le_trans hlater (Int.le_of_eq hcall.now.symm)
  · intro i
    obtain ⟨bytes, saved, hst, hle⟩ := h.2 i
    have hkeeps : s.tree.Keeps (s.after m a).tree := by
      rw [hcall.after]
      exact hcall.keeps
    have hkept := kept_after hs m a i
    rcases hcall.content hs i k with he | ⟨b, r, -, he⟩
    · have hsame := he.trans (content_of_stored hst)
      exact ⟨bytes, saved, stored?_of_keeps k.isPlain_file hkept.alike hkeeps hst hsame, hle⟩
    · exact ⟨b, m.now, stored?_of_keeps k.isPlain_file hkept.alike hkeeps hst he, hlater⟩

theorem ttl_le_of_asked {s s' : System ι} (hs : s.Orderly) (hv : s.OnlySound)
    (hv' : s'.OnlySound) {m m' : Moment} {a a' : Act ι} {k : Kind} (hf : s.Fetches m a k)
    (hr : Run Calls (s.after m a) s') (hm : s'.now ≤ m'.now) {i : ι}
    (hw : s'.wants a' = some (i, k)) (hasked : s'.asked m' a' ≠ []) :
    (s'.clients i).settings.ttl * second ≤ m'.now - m.now := by
  have hsaved := hf.savedSince hs hv
  obtain ⟨j, hj, -⟩ := hf
  obtain ⟨hs', hnow, hstored⟩ := hr.rec_orderly (hs.after (allows_of_wants hj) m) hsaved
    fun s m a hs _ hc h => h.after hs hc
  obtain ⟨bytes, saved, hst, hle⟩ := hstored i
  have hdue : (s'.clients i).Due s'.tree k m'.now := by
    by_contra hn
    exact hasked (asked_of_not_due hs' hv' hw hn)
  apply Int.le_trans (hdue bytes saved hst)
  apply Int.max_le.2
  constructor
  · exact Int.sub_nonneg.2 (Int.le_trans hnow hm)
  · exact Int.sub_le_sub_left hle m'.now

theorem downloads_on_demand {s₀ s : System ι} (h₀ : s₀.Starts) (hv : s₀.OnlySound)
    (hr : Run Calls s₀ s) (m : Moment) (hm : s.now ≤ m.now) (k : Kind) :
    -- Calls that cannot do without a registry ask for its file if it is due, and only then.
    (∀ a i, s.wants a = some (i, k) → (s.clients i).Due s.tree k m.now →
      s.asked m a = if m.cancelled then [] else [(s.clients i).registryUrl k]) ∧
    (∀ a i, s.wants a = some (i, k) → ¬ (s.clients i).Due s.tree k m.now → s.asked m a = []) ∧
    (∀ i, s.asked m (.registry i k) = []) ∧
    -- What a lookup gives in the end.
    (∀ i query, (s.clients i).Due s.tree k m.now → m.cancelled = true →
      ((s.clients i).lookup k query (s.world m)).1 =
        .error (.cancelled ("download of " ++ (s.clients i).registryUrl k))) ∧
    (∀ i query, ¬ (s.clients i).Due s.tree k m.now → ∃ r : Registry,
      ((s.clients i).lookup k query (s.world m)).1 = r.lookup query ∧
      ∀ e, r.lookup query = .error e → e.isQueryFault = true) ∧
    (∀ i query c w, (s.clients i).Due s.tree k m.now →
      (s.clients i).provide k (s.world m) = (.ok (), c, w) → ∃ reason bytes r,
        (m.site ((s.clients i).registryUrl k)).result = some (.ok ⟨200, reason, bytes⟩) ∧
        Registry.read k bytes = .ok r ∧ c.cache.stored? w.tree k.file = some (bytes, m.now) ∧
        ((s.clients i).lookup k query (s.world m)).1 = r.lookup query) ∧
    (∀ i query e c w, (s.clients i).provide k (s.world m) = (.error e, c, w) →
      (s.clients i).lookup k query (s.world m) = (.error e, c, w)) ∧
    -- Downloads are as far apart as files last.
    (∀ s₁ m₁ a₁ a i, Run Calls s₀ s₁ → s₁.Fetches m₁ a₁ k → Run Calls (s₁.after m₁ a₁) s →
      s.wants a = some (i, k) → s.asked m a ≠ [] →
      (s.clients i).settings.ttl * second ≤ m.now - m₁.now) := by
  obtain ⟨hs, hsound⟩ := hr.sound h₀ hv
  refine ⟨fun a i hw hd => asked_of_due hs hw hd,
    fun a i hw hn => asked_of_not_due hs hsound hw hn, fun i => rfl, ?_, ?_, ?_,
    fun i query e c w h => lookup_of_not_provided h query, ?_⟩
  · intro i query hd hcancel
    rw [lookup_eq, provide_of_due (w := s.world m) (hs.client i) hd,
      download_cancelled (w := s.world m) hcancel]
  · intro i query hn
    obtain ⟨-, r, hl⟩ := lookup_of_not_due hs hsound hn query
    exact ⟨r, hl, fun e he => Registry.isQueryFault_of_lookup he⟩
  · intro i query c w hd hok
    obtain ⟨bytes, r, hf, hl⟩ := lookup_of_due hs hd hok
    obtain ⟨reason, hanswer⟩ := hf.answered
    exact ⟨reason, bytes, r, hanswer, hf.read, hf.renewed.stored, hl query⟩
  · intro s₁ m₁ a₁ a i hr₁ hf hrun hw hasked
    obtain ⟨hs₁, hsound₁⟩ := hr₁.sound h₀ hv
    exact ttl_le_of_asked hs₁ hsound₁ hsound hf hrun hm hw hasked

theorem pairFetched_calls : Run Calls pair pairFetched :=
  (Run.refl pair).act (a := .lookup true .dns "example.cz") trivial ⟨by decide, by decide⟩

theorem pairFetched_demand :
    (∃ r : Registry, ((pairFetched.clients false).lookup .dns "example.cz"
      (pairFetched.world (.giving 2 []))).1 = r.lookup "example.cz") ∧
    pairFetched.asked (.giving 2 []) (.lookup false .dns "example.cz") = [] ∧
    pairFetched.asked (.giving (1 + 86400 * 1000000000) []) (.lookup false .dns "example.cz") =
      ["https://data.iana.org/rdap/dns.json"] ∧
    ((pairFetched.clients false).lookup .dns "example.cz"
      (pairFetched.world (.giving (1 + 86400 * 1000000000) []))).1 =
        .error (.emptyFile "dns.json") := by
  have hst : pairFetched.stored false .dns = some (noServices, 1) := by decide +kernel
  have hfresh : ¬ (pairFetched.clients false).Due pairFetched.tree .dns 2 := by
    intro hd
    have hle := hd noServices 1 hst
    revert hle
    decide +kernel
  have hdue : (pairFetched.clients false).Due pairFetched.tree .dns (1 + 86400 * 1000000000) := by
    intro bytes saved h
    cases hst.symm.trans h
    decide +kernel
  obtain ⟨-, hnone, -, -, hanswer, -⟩ := downloads_on_demand pair_starts pair_onlySound
    pairFetched_calls (.giving 2 []) (by decide +kernel) .dns
  obtain ⟨hsome, -, -, -, -, -, hfailed, -⟩ := downloads_on_demand pair_starts pair_onlySound
    pairFetched_calls (.giving (1 + 86400 * 1000000000) []) (by decide +kernel) .dns
  obtain ⟨r, hr, -⟩ := hanswer false "example.cz" hfresh
  have hempty : ((pairFetched.clients false).provide .dns
      (pairFetched.world (.giving (1 + 86400 * 1000000000) []))).1 =
        .error (.emptyFile "dns.json") := by
    decide +kernel
  exact ⟨⟨r, hr⟩, hnone (.lookup false .dns "example.cz") false rfl hfresh,
    hsome (.lookup false .dns "example.cz") false rfl hdue,
    by rw [hfailed false "example.cz" _ _ _ (Prod.ext hempty rfl)]⟩

end RdapDirectory.System
