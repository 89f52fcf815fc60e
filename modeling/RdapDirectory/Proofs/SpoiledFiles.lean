import RdapDirectory.Proofs.Coherence

/-!
Files that make no registry. A client that finds one fetches the file anew, but only at its first
look: the time of the file counts as seen even though nothing could be read from it.
-/

namespace RdapDirectory.System

open Files Cache Client
open Registry (Kind noServices)

variable {ι : Type} [DecidableEq ι]

def OthersAdvance (i : ι) (s : System ι) (m : Moment) (a : Act ι) : Prop :=
  a.caller? ≠ some i → s.Advances (s.after m a)

/-- A client has looked at a file in the cache, before it expired, and the file is still the same.
Accessors and all lookups look, be their downloads successful or not. -/
inductive HasLooked (s₀ : System ι) (i : ι) (k : Kind) (x : List UInt8 × Instant) :
    System ι → Prop where
  | look {s : System ι} {m : Moment} {a : Act ι} (run : Run (OthersAdvance i) s₀ s)
      (allowed : s.Allows a) (advances : OthersAdvance i s m a) (reads : s.reads a = some (i, k))
      (stored : s.stored i k = some x)
      (fresh : isExpired (s.clients i).cache.ttl x.2 m.now = false)
      (content : (s.after m a).content i k = some x) : HasLooked s₀ i k x (s.after m a)
  | stay {s : System ι} {m : Moment} {a : Act ι} (before : HasLooked s₀ i k x s)
      (allowed : s.Allows a) (advances : OthersAdvance i s m a)
      (content : (s.after m a).content i k = some x) : HasLooked s₀ i k x (s.after m a)

variable {s₀ s : System ι} {i : ι} {k : Kind} {bytes : List UInt8} {changed : Instant}

theorem Run.behind (hr : Run (OthersAdvance i) s₀ s) (h₀ : s₀.Starts) :
    s.Orderly ∧ s.Behind i := by
  apply hr.rec_orderly h₀.orderly (h₀.behind i)
  intro s m a hs _ hadv hb
  exact hb.after hs hadv

theorem HasLooked.run {x : List UInt8 × Instant} (h : HasLooked s₀ i k x s) :
    Run (OthersAdvance i) s₀ s := by
  induction h with
  | look run allowed advances => exact run.act allowed advances
  | stay _ allowed advances _ ih => exact ih.act allowed advances

theorem HasLooked.content {x : List UInt8 × Instant} (h : HasLooked s₀ i k x s) :
    s.content i k = some x := by
  cases h with
  | look _ _ _ _ _ _ content => exact content
  | stay _ _ _ content => exact content

theorem current_after (hs : s.Orderly) {m : Moment} {a : Act ι}
    (hc : s.content i k = some (bytes, changed))
    (hc' : (s.after m a).content i k = some (bytes, changed))
    (hbad : ∀ r, Registry.read k bytes ≠ .ok r)
    (h : (s.clients i).cache.Current k.file changed ∨ s.reads a = some (i, k) ∧
      s.stored i k = some (bytes, changed) ∧
      isExpired (s.clients i).cache.ttl changed m.now = false) :
    ((s.after m a).clients i).cache.Current k.file changed := by
  cases change hs m a i k with
  | aside _ upToDate hseen =>
    have hcur : (s.clients i).cache.Current k.file changed := by
      rcases h with hcur | ⟨reads, stored, fresh⟩
      · exact hcur
      · exact upToDate reads bytes changed stored fresh
    obtain ⟨t, ht, hle⟩ := hcur
    exact ⟨t, hseen.trans ht, hle⟩
  | looked b c _ hstored _ _ hseen =>
    cases hc.symm.trans (content_of_stored hstored)
    exact ⟨changed, hseen, Int.le_refl _⟩
  | renewed b r _ hread hstored =>
    cases hc'.symm.trans (content_of_stored hstored)
    exact absurd hread (hbad r)

theorem HasLooked.current (h : HasLooked s₀ i k (bytes, changed) s) (h₀ : s₀.Starts)
    (hbad : ∀ r, Registry.read k bytes ≠ .ok r) : (s.clients i).cache.Current k.file changed := by
  induction h with
  | look run _ _ reads stored fresh content =>
    exact current_after (run.behind h₀).1 (content_of_stored stored) content hbad
      (.inr ⟨reads, stored, fresh⟩)
  | stay before _ _ content ih =>
    exact current_after (before.run.behind h₀).1 before.content content hbad (.inl ih)

theorem hasLooked_of_current (hr : Run (OthersAdvance i) s₀ s) (h₀ : s₀.Starts)
    (hc : s.content i k = some (bytes, changed)) (hbad : ∀ r, Registry.read k bytes ≠ .ok r)
    (hcur : (s.clients i).cache.Current k.file changed) :
    HasLooked s₀ i k (bytes, changed) s := by
  induction hr with
  | refl =>
    obtain ⟨t, ht, -⟩ := hcur
    cases (h₀.seen i k).symm.trans ht
  | @tail s _ hr hstep ih =>
    obtain ⟨m, a, ha, hadv, rfl⟩ := hstep
    obtain ⟨hs, hb⟩ := Run.behind hr h₀
    obtain ⟨t, ht, hle⟩ := hcur
    cases change hs m a i k with
    | aside own _ hseen =>
      have ht : s.seen i k = some t := hseen.symm.trans ht
      have hsame : s.content i k = some (bytes, changed) := by
        by_cases hi : a.caller? = some i
        · exact (own hi).symm.trans hc
        · rcases hadv hi i k with he | ⟨b, later, he, hlt⟩
          · exact he.symm.trans hc
          · cases he.symm.trans hc
            exact absurd (hb.lt ht hlt) (Int.not_lt.2 hle)
      exact .stay (ih hsame ⟨t, ht, hle⟩) ha hadv hc
    | looked b c reads hstored fresh hsame =>
      cases (content_of_stored hstored).symm.trans (hsame.symm.trans hc)
      exact .look hr ha hadv reads hstored fresh hc
    | renewed b r _ hread hstored =>
      cases hc.symm.trans (content_of_stored hstored)
      exact absurd hread (hbad r)

/-- A lookup that finds a file without a registry in it. A client that has looked at this file
before answers from the registry it had, and asks nobody. Any other one asks for a new file and
answers from nothing else. -/
theorem lookup_spoiled (h₀ : s₀.Starts) (hr : Run (OthersAdvance i) s₀ s) (m : Moment)
    (hst : s.stored i k = some (bytes, changed))
    (hage : max 0 (m.now - changed) < (s.clients i).settings.ttl * second)
    (hbad : ∀ r, Registry.read k bytes ≠ .ok r) (query : String) :
    (∀ r, HasLooked s₀ i k (bytes, changed) s → s.loaded i k = some r →
      s.asked m (.lookup i k query) = [] ∧
      ((s.clients i).lookup k query (s.world m)).1 = r.lookup query) ∧
    (¬ HasLooked s₀ i k (bytes, changed) s ∨ s.loaded i k = none →
      s.asked m (.lookup i k query) =
        (if m.cancelled then [] else [(s.clients i).registryUrl k]) ∧
      (m.cancelled = true → ((s.clients i).lookup k query (s.world m)).1 =
        .error (.cancelled ("download of " ++ (s.clients i).registryUrl k))) ∧
      (∀ e c w, (s.clients i).provide k (s.world m) = (.error e, c, w) →
        ((s.clients i).lookup k query (s.world m)).1 = .error e) ∧
      ∀ c w, (s.clients i).provide k (s.world m) = (.ok (), c, w) → ∃ reason body r,
        (m.site ((s.clients i).registryUrl k)).result = some (.ok ⟨200, reason, body⟩) ∧
        Registry.read k body = .ok r ∧
        ((s.clients i).lookup k query (s.world m)).1 = r.lookup query) := by
  obtain ⟨hs, -⟩ := hr.behind h₀
  have hx : isExpired (s.clients i).cache.ttl changed m.now = false := by
    apply Bool.eq_false_iff.2
    intro hx
    have hle := isExpired_iff.1 hx
    rw [(hs.client i).ttl] at hle
    exact absurd hage (Int.not_lt.2 hle)
  constructor
  · intro r hlooked hl
    have hl : (s.clients i).loaded k = some r := hl
    have hprovide := provide_of_current (w := s.world m) hst hx (hlooked.current h₀ hbad)
      (by simp [hl])
    have hlookup := lookup_of_provided hprovide hl query
    refine ⟨?_, by rw [hlookup]⟩
    simp only [asked, hlookup]
    rfl
  · intro h
    obtain ⟨e, hread⟩ : ∃ e, Registry.read k bytes = .error e := by
      cases he : Registry.read k bytes with
      | error e => exact ⟨e, rfl⟩
      | ok r => exact absurd he (hbad r)
    have hn : ¬ (s.clients i).cache.Current k.file changed ∨ (s.clients i).loaded k = none :=
      h.imp (mt (hasLooked_of_current hr h₀ (content_of_stored hst) hbad)) id
    have hprovide := provide_of_rejected (w := s.world m) hst hx hn hread
    refine ⟨?_, fun hcancel => ?_, fun e c w he => ?_, fun c w hok => ?_⟩
    · rw [(provide_of_wants (a := .lookup i k query) rfl m).2, hprovide, asked_download]
      rfl
    · rw [lookup_eq, hprovide, download_cancelled (w := s.world m) hcancel]
      rfl
    · rw [lookup_of_not_provided he]
    · have hdone := hok
      rw [hprovide] at hdone
      obtain ⟨body, r, hf⟩ := fetched_of_download (w := s.world m) hs.here hdone
      obtain ⟨reason, hanswer⟩ := hf.answered
      exact ⟨reason, body, r, hanswer, hf.read, by rw [lookup_of_provided hok hf.renewed.loaded]⟩

def alone : System Unit where
  clients _ := withParts .initial (.disk (.inFolder "cache" Settings.defaultTtl))
  tree := .root 0
  now := 0

def aloneFetched : System Unit := alone.after (.giving 1 noServices) (.lookup () .dns "example.cz")

def aloneSpoiled : System Unit :=
  aloneFetched.after (.giving 2 []) (.write
    ((Cache.disk (.inFolder "cache" 0)).save aloneFetched.tree "dns.json" [0x78] 2).2.2)

def aloneLooked : System Unit := aloneSpoiled.after (.giving 3 []) (.registry () .dns)

theorem alone_starts : alone.Starts :=
  ⟨fun _ => ⟨_, _, rfl, fun _ => rfl⟩, ⟨0, rfl⟩, fun _ _ h => absurd rfl h⟩

theorem letter_bad (r : Registry) : Registry.read .dns [0x78] ≠ .ok r := by
  intro h
  have he : Registry.read .dns [0x78] = .error .notJson := rfl
  rw [he] at h
  cases h

theorem aloneSpoiled_advances : aloneFetched.Advances aloneSpoiled := by
  rintro ⟨⟩ k
  cases k with
  | dns =>
    refine .inr ⟨[0x78], 2, by decide +kernel, fun b old h => ?_⟩
    have hold : aloneFetched.content () .dns = some (noServices, 1) := by decide +kernel
    cases hold.symm.trans h
    decide
  | ipv4 | ipv6 | asn | serviceProvider => exact .inl (by decide +kernel)

theorem aloneFetched_run : Run (OthersAdvance ()) alone aloneFetched :=
  (Run.refl alone).act (a := .lookup () .dns "example.cz") trivial fun h => absurd rfl h

theorem aloneSpoiled_run : Run (OthersAdvance ()) alone aloneSpoiled := by
  have hs := aloneFetched_run.behind alone_starts
  have hw := written_of_save aloneFetched hs.1.here (.disk (.inFolder "cache" 0)) .dns [0x78] 2
  exact aloneFetched_run.act (a := .write _) hw fun _ => aloneSpoiled_advances

theorem alone_hasLooked : HasLooked alone () .dns ([0x78], 2) aloneLooked :=
  .look (a := .registry () .dns) aloneSpoiled_run trivial (fun h => absurd rfl h) rfl
    (by decide +kernel) (by decide +kernel) (by decide +kernel)

theorem alone_answers_from_old : alone.Starts ∧ Run (OthersAdvance ()) alone aloneLooked ∧
    aloneLooked.stored () .dns = some ([0x78], 2) ∧
    Registry.read .dns [0x78] = .error .notJson ∧
    aloneLooked.asked (.giving 4 noServices) (.lookup () .dns "example.cz") = [] ∧
    ((aloneLooked.clients ()).lookup .dns "example.cz"
      (aloneLooked.world (.giving 4 noServices))).1 = .ok (.noMatch "example.cz") :=
  ⟨alone_starts, alone_hasLooked.run, by decide +kernel, rfl, by decide +kernel,
    by decide +kernel⟩

theorem alone_lookup_spoiled : ∃ r, aloneLooked.loaded () .dns = some r ∧
    aloneLooked.asked (.giving 4 noServices) (.lookup () .dns "example.cz") = [] ∧
    ((aloneLooked.clients ()).lookup .dns "example.cz"
      (aloneLooked.world (.giving 4 noServices))).1 = r.lookup "example.cz" := by
  obtain ⟨r, hr⟩ : ∃ r, aloneLooked.loaded () .dns = some r :=
    Option.isSome_iff_exists.1 (by decide +kernel)
  have hst : aloneLooked.stored () .dns = some ([0x78], 2) := by decide +kernel
  obtain ⟨hold, -⟩ := lookup_spoiled alone_starts alone_hasLooked.run (.giving 4 noServices) hst
    (by decide +kernel) letter_bad "example.cz"
  exact ⟨r, hr, hold r alone_hasLooked hr⟩

end RdapDirectory.System
