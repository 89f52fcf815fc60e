import RdapDirectory.Command.Setup
import RdapDirectory.Proofs.BaseUrls

/-!
Where each setting of a run comes from: arguments stand over the environment, that over the files
nearest to the run, and these over what is usual.
-/

namespace RdapDirectory

namespace Settings

open Text

-- How a time is read has no part in where it comes from.
seal Duration.seconds?

structure Source where
  baseUrl : Option String
  ttl : Option Nat
  cacheDir : Option String
  diskCache : Option Bool
  timeout : Option Nat
  userAgent : Option String
  insecure : Option Bool
  experiment : Option Bool

def Source.over (s : Source) (c : Settings) : Settings where
  baseUrl := s.baseUrl.getD c.baseUrl
  ttl := s.ttl.getD c.ttl
  cacheDir := s.cacheDir <|> c.cacheDir
  diskCache := s.diskCache.getD c.diskCache
  timeout := s.timeout.getD c.timeout
  userAgent := s.userAgent.getD c.userAgent
  insecure := s.insecure.getD c.insecure
  experiment := s.experiment.getD c.experiment

structure IsValid (c : Settings) : Prop where
  baseUrl : normalBaseUrl c.baseUrl = .ok c.baseUrl
  timeout : 0 < c.timeout
  userAgent : isBlankText c.userAgent = false

structure Source.IsValid (s : Source) : Prop where
  baseUrl : ∀ u ∈ s.baseUrl, normalBaseUrl u = .ok u
  timeout : ∀ n ∈ s.timeout, n ≠ 0
  userAgent : ∀ a ∈ s.userAgent, isBlankText a = false

theorem initial_isValid : initial.IsValid := by
  constructor
  · decide +kernel
  · decide
  · decide

theorem Source.IsValid.over {s : Source} (h : s.IsValid) {c : Settings} (hc : c.IsValid) :
    (s.over c).IsValid := by
  have hget : ∀ {α : Type} {P : α → Prop} {x : Option α} {b : α}, (∀ v ∈ x, P v) → P b →
      P (x.getD b) := by
    intro α P x b hx hb
    cases x with
    | none => exact hb
    | some v => exact hx v rfl
  constructor
  · exact hget (P := fun u => normalBaseUrl u = .ok u) h.baseUrl hc.baseUrl
  · exact hget (fun n hn => Nat.pos_of_ne_zero (h.timeout n hn)) hc.timeout
  · exact hget h.userAgent hc.userAgent

def given {ε α β : Type} (read : α → Except ε β) (x : Option α) : Option β :=
  x.bind fun v => (read v).toOption

def refused {ε α β : Type} (read : α → Except ε β) (x : Option α) : Option ε :=
  x.bind fun v => match read v with
    | .ok _ => none
    | .error e => some e

theorem refused_eq_none {ε α β : Type} {read : α → Except ε β} {x : Option α} :
    refused read x = none ↔ ∀ v ∈ x, ∃ b, read v = .ok b := by
  unfold refused
  rw [Option.bind_eq_none_iff]
  refine forall₂_congr fun v _ => ?_
  cases read v <;> simp

theorem mem_given {ε α β : Type} {read : α → Except ε β} {x : Option α} {b : β}
    (h : b ∈ given read x) : ∃ v ∈ x, read v = .ok b := by
  obtain ⟨v, hv, hread⟩ := Option.bind_eq_some_iff.1 h
  refine ⟨v, hv, ?_⟩
  cases hr : read v <;> rw [hr] at hread <;> cases hread
  rfl

theorem normal_of_given {x : Option String} {v : String} (h : v ∈ given normalBaseUrl x) :
    normalBaseUrl v = .ok v := by
  obtain ⟨u, -, hu⟩ := mem_given h
  exact normalBaseUrl_normal hu

def Sections.source (s : Sections) : Source where
  baseUrl := given normalBaseUrl (s.registry.getD {}).baseUrl
  ttl := (s.cache.getD {}).ttl.bind Duration.seconds?
  cacheDir := (s.cache.getD {}).dir
  diskCache := (s.cache.getD {}).disk
  timeout := (s.http.getD {}).timeout.bind Duration.seconds?
  userAgent := (s.http.getD {}).userAgent
  insecure := (s.http.getD {}).insecure
  experiment := (s.registry.getD {}).experiment

def Overrides.source (o : Overrides) : Source where
  baseUrl := o.baseUrl
  ttl := o.ttl
  cacheDir := o.cacheDir
  diskCache := o.diskCache
  timeout := o.timeout
  userAgent := o.userAgent
  insecure := o.insecure
  experiment := o.experiment

def change {α β : Type} (read : α → Except Failure β) (set : Settings → β → Settings)
    (x : Option α) : Option Change :=
  x.map fun v c => (read v).map (set c)

theorem applyAll_change_eq {α β : Type} {read : α → Except Failure β}
    {set : Settings → β → Settings} {x : Option α} (get : Settings → β)
    (hset : ∀ c, set c (get c) = c) (rest : List (Option Change)) (c : Settings) :
    applyAll (change read set x :: rest).reduceOption c =
      match refused read x with
      | some e => (.error e, c)
      | none => applyAll rest.reduceOption (set c ((given read x).getD (get c))) := by
  cases x with
  | none => simp [change, refused, given, hset]
  | some v =>
    cases hv : read v with
    | ok b => simp [change, refused, given, applyAll, hv, Except.map, Except.toOption]
    | error e => simp [change, refused, applyAll, hv, Except.map]

theorem applyAll_change {α β : Type} {read : α → Except Failure β}
    {set : Settings → β → Settings} {x : Option α} (get : Settings → β)
    (hset : ∀ c, set c (get c) = c) {rest : List (Option Change)} {c d : Settings} :
    applyAll (change read set x :: rest).reduceOption c = (.ok (), d) ↔
      (∀ v ∈ x, ∃ b, read v = .ok b) ∧
      applyAll rest.reduceOption (set c ((given read x).getD (get c))) = (.ok (), d) := by
  rw [applyAll_change_eq get hset, ← refused_eq_none]
  cases refused read x <;> simp

theorem Sections.changes_eq (s : Sections) : s.changes = List.reduceOption [
    change normalBaseUrl (fun c u => { c with baseUrl := u }) (s.registry.getD {}).baseUrl,
    change .ok (fun c b => { c with experiment := b }) (s.registry.getD {}).experiment,
    change (fun d => .ok (some d)) (fun c d => { c with cacheDir := d }) (s.cache.getD {}).dir,
    change .ok (fun c b => { c with diskCache := b }) (s.cache.getD {}).disk,
    change (duration? "cache.ttl") (fun c n => { c with ttl := n }) (s.cache.getD {}).ttl,
    change (duration? "http.timeout") (fun c n => { c with timeout := n })
      (s.http.getD {}).timeout,
    change .ok (fun c a => { c with userAgent := a }) (s.http.getD {}).userAgent,
    change .ok (fun c b => { c with insecure := b }) (s.http.getD {}).insecure] := rfl

theorem given_duration? (name : String) (x : Option String) :
    given (duration? name) x = x.bind Duration.seconds? := by
  cases x with
  | none => simp only [given, Option.bind_none]
  | some v =>
    simp only [given, Option.bind_some, duration?]
    cases Duration.seconds? v <;> simp only [Except.toOption]

theorem duration?_eq_ok {name value : String} {n : Nat} :
    duration? name value = .ok n ↔ Duration.seconds? value = some n := by
  unfold duration?
  split <;> simp [*]

theorem Sections.apply_eq_ok {s : Sections} {c d : Settings} : s.apply c = (.ok (), d) ↔
    (∀ u ∈ (s.registry.getD {}).baseUrl, ∃ v, normalBaseUrl u = .ok v) ∧
    (∀ t ∈ (s.cache.getD {}).ttl, ∃ n, Duration.seconds? t = some n) ∧
    (∀ t ∈ (s.http.getD {}).timeout, ∃ n, Duration.seconds? t = some n) ∧
    d = s.source.over c := by
  unfold Sections.apply
  rw [changes_eq, applyAll_change (·.baseUrl) fun _ => rfl,
    applyAll_change (·.experiment) fun _ => rfl, applyAll_change (·.cacheDir) fun _ => rfl,
    applyAll_change (·.diskCache) fun _ => rfl, applyAll_change (·.ttl) fun _ => rfl,
    applyAll_change (·.timeout) fun _ => rfl, applyAll_change (·.userAgent) fun _ => rfl,
    applyAll_change (·.insecure) fun _ => rfl]
  have hpure : ∀ {α : Type} (x : Option α), given (ε := Failure) .ok x = x := by
    intro α x
    cases x <;> rfl
  have hfolder : ∀ x y : Option String,
      (given (ε := Failure) (.ok <| some ·) x).getD y = (x <|> y) := by
    intro x y
    cases x <;> rfl
  simp only [given_duration?, duration?_eq_ok, hpure, hfolder, Except.ok.injEq, exists_eq',
    implies_true, true_and]
  have hdone : ∀ c : Settings, applyAll ([] : List (Option Change)).reduceOption c = (.ok (), d) ↔
      d = c := by
    intro c
    simp only [List.reduceOption_nil, applyAll, Prod.mk.injEq, true_and, eq_comm]
  rw [hdone]
  rfl

namespace Sections

structure IsReadable (s : Sections) : Prop where
  baseUrl : ∀ u ∈ (s.registry.getD {}).baseUrl, ∃ v, normalBaseUrl u = .ok v
  ttl : ∀ t ∈ (s.cache.getD {}).ttl, ∃ n, Duration.seconds? t = some n
  timeout : ∀ t ∈ (s.http.getD {}).timeout, ∃ n, Duration.seconds? t = some n

theorem IsReadable.apply_eq {s : Sections} (h : s.IsReadable) (c : Settings) :
    s.apply c = (.ok (), s.source.over c) :=
  apply_eq_ok.2 ⟨h.baseUrl, h.ttl, h.timeout, rfl⟩

structure IsSound (s : Sections) : Prop where
  baseUrl : ∀ u ∈ (s.registry.getD {}).baseUrl, ∃ v, normalBaseUrl u = .ok v
  ttl : ∀ t ∈ (s.cache.getD {}).ttl, ∃ n, Duration.seconds? t = some n
  timeout : ∀ t ∈ (s.http.getD {}).timeout, ∃ n, Duration.seconds? t = some n ∧ n ≠ 0
  userAgent : ∀ a ∈ (s.http.getD {}).userAgent, isBlankText a = false

theorem IsSound.source {s : Sections} (h : s.IsSound) : s.source.IsValid := by
  constructor
  · exact fun v hv => normal_of_given hv
  · intro n hn
    obtain ⟨t, ht, hread⟩ := Option.bind_eq_some_iff.1 hn
    obtain ⟨m, hm, hne⟩ := h.timeout t ht
    cases hm.symm.trans hread
    exact hne
  · exact h.userAgent

theorem getD_merge_registry (low high : Option RegistrySection) :
    (Option.merge RegistrySection.under low high).getD {} = (low.getD {}).under (high.getD {}) := by
  cases low <;> cases high <;> simp [RegistrySection.under]

theorem getD_merge_cache (low high : Option CacheSection) :
    (Option.merge CacheSection.under low high).getD {} = (low.getD {}).under (high.getD {}) := by
  cases low <;> cases high <;> simp [CacheSection.under]

theorem getD_merge_http (low high : Option HttpSection) :
    (Option.merge HttpSection.under low high).getD {} = (low.getD {}).under (high.getD {}) := by
  cases low <;> cases high <;> simp [HttpSection.under]

theorem forall_mem_either {α : Type} {P : α → Prop} {x y : Option α} (hx : ∀ v ∈ x, P v)
    (hy : ∀ v ∈ y, P v) : ∀ v ∈ (x <|> y), P v := by
  cases x with
  | none => simpa using hy
  | some a => simpa using hx

theorem IsSound.under {low high : Sections} (hl : low.IsSound) (hh : high.IsSound) :
    (low.under high).IsSound := by
  constructor
  · rw [Sections.under, getD_merge_registry]
    exact forall_mem_either hh.baseUrl hl.baseUrl
  · rw [Sections.under, getD_merge_cache]
    exact forall_mem_either hh.ttl hl.ttl
  · rw [Sections.under, getD_merge_http]
    exact forall_mem_either hh.timeout hl.timeout
  · rw [Sections.under, getD_merge_http]
    exact forall_mem_either hh.userAgent hl.userAgent

theorem source_under {low high : Sections} (hh : high.IsReadable) (c : Settings) :
    (low.under high).source.over c = high.source.over (low.source.over c) := by
  have hread : ∀ {α β : Type} {read : α → Option β} {x y : Option α} {b : β},
      (∀ v ∈ x, ∃ w, read v = some w) →
      ((x <|> y).bind read).getD b = (x.bind read).getD ((y.bind read).getD b) := by
    intro α β read x y b hx
    cases x with
    | none => simp
    | some v =>
      obtain ⟨w, hw⟩ := hx v rfl
      simp [hw]
  have hplain : ∀ {α : Type} {x y : Option α} {b : α}, (x <|> y).getD b = x.getD (y.getD b) := by
    intro α x y b
    cases x <;> simp
  have hfolder : ∀ {x y z : Option String}, ((x <|> y) <|> z) = (x <|> (y <|> z)) := by
    intro x y z
    cases x <;> simp
  have hurl : ∀ u ∈ (high.registry.getD {}).baseUrl, ∃ w, (normalBaseUrl u).toOption = some w := by
    intro u hu
    obtain ⟨w, hw⟩ := hh.baseUrl u hu
    exact ⟨w, by rw [hw]; rfl⟩
  simp only [Source.over, source, given, Sections.under, getD_merge_registry, getD_merge_cache,
    getD_merge_http, RegistrySection.under, CacheSection.under, HttpSection.under, hplain, hfolder,
    hread hurl, hread hh.ttl, hread hh.timeout]

end Sections

open Files

def found (t : Tree) (places : Candidates) : Option Sections :=
  (places.find? t.has).bind fun path => (load t path).toOption

def layers (e : Environment) : List Candidates :=
  [localCandidates, homeCandidates e, sharedCandidates e]

end Settings

namespace Command

open Settings

seal Duration.seconds?

def readUrl (v : String) : Except Fault String := (normalBaseUrl v).mapError .failure

def readTtl (v : String) : Except Fault Nat :=
  match Duration.seconds? v with
  | some n => .ok n
  | none => .error (.badTtl v)

def readTimeout (v : String) : Except Fault Nat :=
  match (Duration.seconds? v).filter (· ≠ 0) with
  | some n => .ok n
  | none => .error (.badTimeout v)

namespace Arguments

def source (a : Arguments) : Source where
  baseUrl := given readUrl a.baseUrl
  ttl := given readTtl a.cacheTtl
  cacheDir := a.cacheDir
  diskCache := if a.noDiskCache then some false else none
  timeout := given readTimeout a.timeout
  userAgent := none
  insecure := if a.insecure then some true else none
  experiment := if a.experiment then some true else none

def refusal? (a : Arguments) : Option Fault :=
  refused readUrl a.baseUrl <|> refused readTtl a.cacheTtl <|> refused readTimeout a.timeout

theorem apply_url {a : Arguments} {c : Settings} {f : Fault}
    (h : refused readUrl a.baseUrl = some f) : a.apply c = .error f := by
  obtain ⟨v, hv, hf⟩ := Option.bind_eq_some_iff.1 h
  unfold apply
  rw [hv]
  unfold readUrl at hf
  cases hu : normalBaseUrl v with
  | ok u => simp [hu, Except.mapError] at hf
  | error e =>
    simp only [hu, Except.mapError, Option.some.injEq] at hf
    simp only [Settings.setBaseUrl, hu, Except.map, Except.mapError, hf, bind, Except.bind]

theorem apply_of_url {a : Arguments} {c : Settings} (h : refused readUrl a.baseUrl = none) :
    a.apply c = { a with baseUrl := none }.apply
      { c with baseUrl := (given readUrl a.baseUrl).getD c.baseUrl } := by
  unfold apply
  cases hv : a.baseUrl with
  | none => simp only [given, Option.bind_none, Option.getD_none]
  | some v =>
    cases hu : normalBaseUrl v with
    | ok u =>
      simp only [given, readUrl, Settings.setBaseUrl, hu, Except.map, Except.mapError, bind,
        Except.bind, Option.bind_some, Except.toOption, Option.getD_some, pure, Except.pure]
    | error e => simp [refused, readUrl, hv, hu, Except.mapError] at h

theorem apply_ttl {a : Arguments} {c : Settings} {f : Fault} (hurl : a.baseUrl = none)
    (h : refused readTtl a.cacheTtl = some f) : a.apply c = .error f := by
  obtain ⟨v, hv, hf⟩ := Option.bind_eq_some_iff.1 h
  unfold readTtl at hf
  unfold apply
  rw [hurl, hv]
  cases hn : Duration.seconds? v with
  | some n => simp [hn] at hf
  | none =>
    simp only [hn, Option.some.injEq] at hf
    simp only [bind, Except.bind, pure, Except.pure, hn, ← hf]
    rfl

theorem apply_of_ttl {a : Arguments} {c : Settings} (hurl : a.baseUrl = none)
    (h : refused readTtl a.cacheTtl = none) : a.apply c = { a with cacheTtl := none }.apply
      { c with ttl := (given readTtl a.cacheTtl).getD c.ttl } := by
  unfold apply
  rw [hurl]
  cases hv : a.cacheTtl with
  | none => simp only [given, Option.bind_none, Option.getD_none]
  | some v =>
    cases hn : Duration.seconds? v with
    | some n =>
      simp only [given, readTtl, hn, bind, Except.bind, Option.bind_some, Except.toOption,
        Option.getD_some, pure, Except.pure]
    | none => simp [refused, readTtl, hv, hn] at h

theorem apply_timeout {a : Arguments} {c : Settings} {f : Fault} (hurl : a.baseUrl = none)
    (httl : a.cacheTtl = none) (h : refused readTimeout a.timeout = some f) :
    a.apply c = .error f := by
  obtain ⟨v, hv, hf⟩ := Option.bind_eq_some_iff.1 h
  unfold readTimeout at hf
  unfold apply
  rw [hurl, httl, hv]
  cases hn : (Duration.seconds? v).filter (· ≠ 0) with
  | some n => simp only [hn, reduceCtorEq] at hf
  | none =>
    simp only [hn, Option.some.injEq] at hf
    simp only [bind, Except.bind, pure, Except.pure, hn, ← hf]
    rfl

theorem apply_of_timeout {a : Arguments} {c : Settings} (hurl : a.baseUrl = none)
    (httl : a.cacheTtl = none) (h : refused readTimeout a.timeout = none) :
    a.apply c = { a with timeout := none }.apply
      { c with timeout := (given readTimeout a.timeout).getD c.timeout } := by
  unfold apply
  rw [hurl, httl]
  cases hv : a.timeout with
  | none => simp only [given, Option.bind_none, Option.getD_none]
  | some v =>
    cases hn : (Duration.seconds? v).filter (· ≠ 0) with
    | some n =>
      simp only [given, readTimeout, hn, bind, Except.bind, Option.bind_some, Except.toOption,
        Option.getD_some, pure, Except.pure]
    | none => simp only [refused, readTimeout, hv, hn, Option.bind_some, reduceCtorEq] at h

theorem apply_eq (a : Arguments) (c : Settings) :
    a.apply c = a.refusal?.elim (.ok (a.source.over c)) .error := by
  have hflag : ∀ b x : Bool, (if b then some false else none).getD x = (x && !b) ∧
      (if b then some true else none).getD x = (x || b) := by decide
  unfold refusal?
  cases hurl : refused readUrl a.baseUrl with
  | some f => exact apply_url hurl
  | none =>
    rw [apply_of_url hurl]
    cases httl : refused readTtl a.cacheTtl with
    | some f => exact apply_ttl rfl httl
    | none =>
      rw [apply_of_ttl (a := { a with baseUrl := none }) rfl httl]
      cases htimeout : refused readTimeout a.timeout with
      | some f => exact apply_timeout rfl rfl htimeout
      | none =>
        rw [apply_of_timeout (a := { a with baseUrl := none, cacheTtl := none }) rfl rfl htimeout]
        simp only [Source.over, source, hflag]
        rfl

end Arguments

def namedFile? (a : Arguments) (e : Environment) : Option String := a.config <|> e.overrides.config

def loadNamed (t : Files.Tree) (path : String) : Except Fault Sections :=
  (load t path).mapError (.badFile path)

/-- The named file alone, or else those in the usual places that load, the nearest first. -/
def files (a : Arguments) (e : Environment) (t : Files.Tree) : List Sections :=
  match namedFile? a e with
  | some path => (load t path).toOption.toList
  | none => (layers e).filterMap (found t)

def refusal? (a : Arguments) (e : Environment) (t : Files.Tree) : Option Fault :=
  refused (loadNamed t) (namedFile? a e) <|> a.refusal?

end Command

end RdapDirectory
