import RdapDirectory.Proofs.Precedence

namespace RdapDirectory.Settings

open Files Text Url

seal Duration.seconds?

theorem web_of_normal {s : String} (h : normalBaseUrl s = .ok s) :
    ∃ u, Url.read s = .ok u ∧ u.isWeb = true ∧ s.toList.getLast? = some '/' := by
  obtain ⟨u, a, segs, hurl, rfl, hslash⟩ := exists_of_normalBaseUrl h
  have hweb : u.isWeb = true := by simpa [isWeb] using hurl.scheme
  refine ⟨u, ?_, hweb, ?_⟩
  · rw [Url.read, Url.text, String.toList_ofList, hurl.readChars_write]
  · rw [Url.text, String.toList_ofList, hslash]

inductive Part where
  | baseUrl
  | experiment
  | cacheDir
  | diskCache
  | ttl
  | timeout
  | userAgent
  | insecure
deriving DecidableEq

inductive PartValue where
  | text (s : String)
  | folder (d : Option String)
  | flag (b : Bool)
  | seconds (n : Nat)

def parts : List Part :=
  [.baseUrl, .experiment, .cacheDir, .diskCache, .ttl, .timeout, .userAgent, .insecure]

def part (c : Settings) : Part → PartValue
  | .baseUrl => .text c.baseUrl
  | .experiment => .flag c.experiment
  | .cacheDir => .folder c.cacheDir
  | .diskCache => .flag c.diskCache
  | .ttl => .seconds c.ttl
  | .timeout => .seconds c.timeout
  | .userAgent => .text c.userAgent
  | .insecure => .flag c.insecure

def takePart (c d : Settings) : Part → Settings
  | .baseUrl => { c with baseUrl := d.baseUrl }
  | .experiment => { c with experiment := d.experiment }
  | .cacheDir => { c with cacheDir := d.cacheDir }
  | .diskCache => { c with diskCache := d.diskCache }
  | .ttl => { c with ttl := d.ttl }
  | .timeout => { c with timeout := d.timeout }
  | .userAgent => { c with userAgent := d.userAgent }
  | .insecure => { c with insecure := d.insecure }

theorem part_takePart (c d : Settings) (p q : Part) :
    (c.takePart d p).part q = if q = p then d.part q else c.part q := by
  cases p <;> cases q <;> rfl

theorem part_over (s : Source) {c d : Settings} {p : Part} (h : c.part p = d.part p) :
    (s.over c).part p = (s.over d).part p := by
  cases p <;> simp only [part, PartValue.text.injEq, PartValue.folder.injEq,
    PartValue.flag.injEq, PartValue.seconds.injEq] at h ⊢ <;> simp only [Source.over, h]

theorem applyAll_change_ok {α : Type} {set : Settings → α → Settings} {x : Option α}
    (get : Settings → α) (hset : ∀ c, set c (get c) = c) (rest : List (Option Change))
    (c : Settings) : applyAll (change .ok set x :: rest).reduceOption c =
      applyAll rest.reduceOption (set c (x.getD (get c))) := by
  rw [applyAll_change_eq get hset]
  cases x <;> rfl

namespace Sections

def refusal? (s : Sections) : Part → Option Failure
  | .baseUrl => refused normalBaseUrl (s.registry.getD {}).baseUrl
  | .ttl => refused (duration? "cache.ttl") (s.cache.getD {}).ttl
  | .timeout => refused (duration? "http.timeout") (s.http.getD {}).timeout
  | _ => none

def partChange (s : Sections) : Part → Option Change
  | .baseUrl =>
    change normalBaseUrl (fun c u => { c with baseUrl := u }) (s.registry.getD {}).baseUrl
  | .experiment =>
    change .ok (fun c b => { c with experiment := b }) (s.registry.getD {}).experiment
  | .cacheDir => change (fun d => .ok (some d)) (fun c d => { c with cacheDir := d })
    (s.cache.getD {}).dir
  | .diskCache => change .ok (fun c b => { c with diskCache := b }) (s.cache.getD {}).disk
  | .ttl => change (duration? "cache.ttl") (fun c n => { c with ttl := n }) (s.cache.getD {}).ttl
  | .timeout => change (duration? "http.timeout") (fun c n => { c with timeout := n })
    (s.http.getD {}).timeout
  | .userAgent => change .ok (fun c a => { c with userAgent := a }) (s.http.getD {}).userAgent
  | .insecure => change .ok (fun c b => { c with insecure := b }) (s.http.getD {}).insecure

theorem apply_eq_parts (s : Sections) (c : Settings) :
    s.apply c = applyAll (parts.map s.partChange).reduceOption c := by
  unfold apply
  rw [changes_eq]
  rfl

theorem applyAll_partChange (s : Sections) (p : Part) (rest : List (Option Change))
    (c : Settings) : applyAll (s.partChange p :: rest).reduceOption c =
      match s.refusal? p with
      | some e => (.error e, c)
      | none => applyAll rest.reduceOption (c.takePart (s.source.over c) p) := by
  cases p with
  | baseUrl => exact applyAll_change_eq (·.baseUrl) (fun _ => rfl) rest c
  | experiment => exact applyAll_change_ok (·.experiment) (fun _ => rfl) rest c
  | cacheDir =>
    have hfolder : ∀ x y : Option String, refused (ε := Failure) (fun d => .ok (some d)) x = none ∧
        (given (ε := Failure) (.ok <| some ·) x).getD y = (x <|> y) := by
      intro x y
      cases x <;> exact ⟨rfl, rfl⟩
    refine (applyAll_change_eq (·.cacheDir) (fun _ => rfl) rest c).trans ?_
    simp only [hfolder _ c.cacheDir]
    rfl
  | diskCache => exact applyAll_change_ok (·.diskCache) (fun _ => rfl) rest c
  | ttl =>
    refine (applyAll_change_eq (·.ttl) (fun _ => rfl) rest c).trans ?_
    simp only [given_duration?]
    rfl
  | timeout =>
    refine (applyAll_change_eq (·.timeout) (fun _ => rfl) rest c).trans ?_
    simp only [given_duration?]
    rfl
  | userAgent => exact applyAll_change_ok (·.userAgent) (fun _ => rfl) rest c
  | insecure => exact applyAll_change_ok (·.insecure) (fun _ => rfl) rest c

theorem parts_of_applyAll (s : Sections) {ps : List Part} (hps : ps.Nodup) {c d : Settings}
    {e : Failure} (h : applyAll (ps.map s.partChange).reduceOption c = (.error e, d)) :
    ∃ before p after, ps = before ++ p :: after ∧ s.refusal? p = some e ∧
      (∀ q ∈ before, s.refusal? q = none ∧ d.part q = (s.source.over c).part q) ∧
      ∀ q, q ∉ before → d.part q = c.part q := by
  induction ps generalizing c with
  | nil => cases h
  | cons p rest ih =>
    obtain ⟨hp, hrest⟩ := List.nodup_cons.1 hps
    rw [List.map_cons, applyAll_partChange] at h
    cases hr : s.refusal? p with
    | some e' =>
      simp only [hr, Prod.mk.injEq, Except.error.injEq] at h
      obtain ⟨rfl, rfl⟩ := h
      exact ⟨[], p, rest, rfl, hr, nofun, fun _ _ => rfl⟩
    | none =>
      simp only [hr] at h
      obtain ⟨before, q, after, rfl, hq, hset, hkept⟩ := ih hrest h
      have hout : p ∉ before := fun hin => hp (List.mem_append_left _ hin)
      refine ⟨p :: before, q, after, rfl, hq, fun r hin => ?_, fun r hin => ?_⟩
      · rcases List.mem_cons.1 hin with rfl | hin
        · rw [hkept r hout, part_takePart, if_pos rfl]
          exact ⟨hr, rfl⟩
        -- The part just set is none of those that come later, which go on from what was there.
        · have hne : r ≠ p := fun he => hout (he ▸ hin)
          obtain ⟨haccepted, hvalue⟩ := hset r hin
          rw [hvalue]
          refine ⟨haccepted, ?_⟩
          apply part_over
          rw [part_takePart, if_neg hne]
      · obtain ⟨hne, hin⟩ := not_or.1 (mt List.mem_cons.2 hin)
        rw [hkept r hin, part_takePart, if_neg hne]

theorem parts_of_refused {s : Sections} {c d : Settings} {e : Failure}
    (h : s.apply c = (.error e, d)) : ∃ before p after, parts = before ++ p :: after ∧
      s.refusal? p = some e ∧
      (∀ q ∈ before, s.refusal? q = none ∧ d.part q = (s.source.over c).part q) ∧
      ∀ q ∈ p :: after, d.part q = c.part q := by
  have hnodup : parts.Nodup := by decide
  rw [apply_eq_parts] at h
  obtain ⟨before, p, after, hparts, hp, hset, hkept⟩ := s.parts_of_applyAll hnodup h
  refine ⟨before, p, after, hparts, hp, hset, fun q hq => hkept q fun hin => ?_⟩
  rw [hparts, List.nodup_append] at hnodup
  exact hnodup.2.2 q hin q hq rfl

end Sections

def IsNormal (c : Settings) : Prop := normalBaseUrl c.baseUrl = .ok c.baseUrl

inductive Step where
  | sections (s : Sections)
  | load (t : Tree) (path : String)
  | discover (t : Tree) (e : Environment)
  | environment (e : Environment)
  | baseUrl (text : String)

def perform (c : Settings) : Step → Except Failure Unit × Settings
  | .sections s => s.apply c
  | .load t path =>
    match load t path with
    | .ok s => s.apply c
    | .error e => (.error e, c)
  | .discover t e => (discover t e).apply c
  | .environment e => (.ok (), e.overrides.apply c)
  | .baseUrl text => applyAll [fun c => c.setBaseUrl text] c

/-- Goes on after a step that fails, with what it has left. -/
def performAll (c : Settings) (steps : List Step) : Settings :=
  steps.foldl (fun c step => (c.perform step).2) c

theorem IsNormal.over {s : Source} (hs : ∀ u ∈ s.baseUrl, normalBaseUrl u = .ok u) {c : Settings}
    (hc : c.IsNormal) : (s.over c).IsNormal := by
  unfold IsNormal Source.over
  cases hu : s.baseUrl with
  | none => exact hc
  | some u => exact hs u hu

theorem IsNormal.apply {c : Settings} (hc : c.IsNormal) (s : Sections) :
    (s.apply c).2.IsNormal := by
  have hover : (s.source.over c).IsNormal := hc.over fun u hu => normal_of_given hu
  have hsame : ∀ {d d' : Settings}, d.part .baseUrl = d'.part .baseUrl → d'.IsNormal →
      d.IsNormal := by
    intro d d' h hd
    have he : d.baseUrl = d'.baseUrl := PartValue.text.inj h
    unfold IsNormal
    rw [he]
    exact hd
  obtain ⟨r, d, hr⟩ : ∃ r d, s.apply c = (r, d) := ⟨_, _, rfl⟩
  rw [hr]
  cases r with
  | ok =>
    obtain ⟨-, -, -, rfl⟩ := Sections.apply_eq_ok.1 hr
    exact hover
  | error e =>
    obtain ⟨before, p, after, hparts, -, hset, hkept⟩ := Sections.parts_of_refused hr
    have hmem : Part.baseUrl ∈ before ++ p :: after := hparts ▸ by decide
    rcases List.mem_append.1 hmem with hin | hin
    · exact hsame (hset _ hin).2 hover
    · exact hsame (hkept _ hin) hc

theorem perform_baseUrl (c : Settings) (text : String) : c.perform (.baseUrl text) =
    match normalBaseUrl text with
    | .ok u => (.ok (), { c with baseUrl := u })
    | .error e => (.error e, c) := by
  cases hu : normalBaseUrl text <;> simp [perform, applyAll, setBaseUrl, hu, Except.map]

theorem IsNormal.perform {c : Settings} (hc : c.IsNormal) (step : Step) :
    (c.perform step).2.IsNormal := by
  cases step with
  | sections s => exact hc.apply s
  | load t path =>
    cases hl : load t path with
    | ok s =>
      simp only [Settings.perform, hl]
      exact hc.apply s
    | error e =>
      simp only [Settings.perform, hl]
      exact hc
  | discover t e => exact hc.apply (discover t e)
  | environment e =>
    have hover : (e.overrides.source.over c).IsNormal := hc.over fun u hu => normal_of_given hu
    exact hover
  | baseUrl text =>
    rw [perform_baseUrl]
    cases hu : normalBaseUrl text with
    | ok u => exact normalBaseUrl_normal hu
    | error e => exact hc

theorem IsNormal.performAll {c : Settings} (hc : c.IsNormal) (steps : List Step) :
    (c.performAll steps).IsNormal := by
  induction steps generalizing c with
  | nil => exact hc
  | cons step rest ih => exact ih (hc.perform step)

theorem steps_keep_normal :
    (∀ s t, normalBaseUrl s = .ok t → normalBaseUrl t = .ok t) ∧
    (∀ steps : List Step, (initial.performAll steps).IsNormal) ∧
    (∀ c : Settings, c.IsNormal → ∃ u, Url.read c.baseUrl = .ok u ∧
      (u.scheme = "http" ∨ u.scheme = "https") ∧ c.baseUrl.toList.getLast? = some '/') ∧
    (∀ (c d : Settings) text e, c.perform (.baseUrl text) = (.error e, d) → d = c) ∧
    ∀ (s : Sections) (c d : Settings) e, c.perform (.sections s) = (.error e, d) →
      ∃ before p after, parts = before ++ p :: after ∧ s.refusal? p = some e ∧
        (∀ q ∈ before, s.refusal? q = none ∧ d.part q = (s.source.over c).part q) ∧
        ∀ q ∈ p :: after, d.part q = c.part q := by
  refine ⟨fun s t h => normalBaseUrl_normal h, fun steps => ?_, fun c hc => ?_, ?_, ?_⟩
  · exact IsNormal.performAll initial_isValid.baseUrl steps
  · obtain ⟨u, hu, hweb, hslash⟩ := web_of_normal hc
    have hscheme : u.scheme = "http" ∨ u.scheme = "https" := by simpa [isWeb] using hweb
    exact ⟨u, hu, hscheme, hslash⟩
  · intro c d text e h
    rw [perform_baseUrl] at h
    split at h <;> cases h
    rfl
  · intro s c d e h
    exact Sections.parts_of_refused h

def halfRight : Sections where
  registry := some { baseUrl := some " HTTP://Example.org/a?b" }
  cache := some { ttl := some "soon" }

theorem halfRight_performed : ∃ e d, initial.perform (.sections halfRight) = (.error e, d) ∧
    d.baseUrl = "http://example.org/a?b/" ∧ normalBaseUrl d.baseUrl = .ok d.baseUrl ∧
    d.ttl = initial.ttl := by
  obtain ⟨hidempotent, -, -, -, hrefused⟩ := steps_keep_normal
  have hurl : normalBaseUrl " HTTP://Example.org/a?b" = .ok "http://example.org/a?b/" := by
    decide +kernel
  have hfails : (initial.perform (.sections halfRight)).1.isOk = false := by decide +kernel
  obtain ⟨r, d, hd⟩ : ∃ r d, initial.perform (.sections halfRight) = (r, d) := ⟨_, _, rfl⟩
  rw [hd] at hfails
  cases r with
  | ok => cases hfails
  | error e =>
    obtain ⟨before, p, after, hparts, hp, hset, hkept⟩ := hrefused _ _ _ _ hd
    obtain rfl : p = .ttl := by
      cases p with
      | ttl => rfl
      | baseUrl => simp [Sections.refusal?, refused, halfRight, hurl] at hp
      | experiment | cacheDir | diskCache | timeout | userAgent | insecure => cases hp
    have hbefore : Part.baseUrl ∈ before := by
      cases before with
      | nil => cases hparts
      | cons q rest =>
        obtain rfl : Part.baseUrl = q := (List.cons.inj hparts).1
        exact List.mem_cons_self
    have hbase : d.baseUrl = "http://example.org/a?b/" := by
      have hpart := PartValue.text.inj (hset _ hbefore).2
      rw [hpart]
      simp [Source.over, Sections.source, given, halfRight, hurl, Except.toOption]
    have httl : d.ttl = initial.ttl := PartValue.seconds.inj (hkept _ List.mem_cons_self)
    exact ⟨e, d, hd, hbase, hbase ▸ hidempotent _ _ hurl, httl⟩

end RdapDirectory.Settings
