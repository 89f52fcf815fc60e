import RdapDirectory.Command.Run
import RdapDirectory.Proofs.Standings

namespace RdapDirectory

open Files Cache Client
open Registry (Kind noServices czServers)

namespace Client

variable {c c' : Client} {w w' : World}

theorem lookup_agrees (h : c.Poised w) (h' : c'.Poised w') (ha : c.Agrees c' w w') (k : Kind)
    (query : String) : (c'.lookup k query w').1 = (c.lookup k query w).1 := by
  rw [lookup_standing h, lookup_standing h', ha.standing]

theorem resolve_agrees (h : c.Poised w) (h' : c'.Poised w') (ha : c.Agrees c' w w')
    (r : Request) : (c'.resolve r w').1 = (c.resolve r w).1 := by
  have hregistry : c'.registryFor? r = c.registryFor? r := by
    simp only [registryFor?, ha.settings]
  unfold resolve
  rw [hregistry]
  cases r.url? with
  | some u => rfl
  | none =>
    cases c.registryFor? r with
    | none => rfl
    | some k =>
      have hlookup := lookup_agrees h h' ha k r.text
      rcases hx : c.lookup k r.text w with ⟨x, d, v⟩
      rcases hx' : c'.lookup k r.text w' with ⟨x', d', v'⟩
      rw [hx, hx'] at hlookup
      obtain rfl : x' = x := hlookup
      simp only [hx, hx']
      cases x' with
      | error e => rfl
      | ok answer => rfl

theorem resolve_steady (h : c.Steady w) (r : Request) :
    (c.resolve r w).2.1.Steady (c.resolve r w).2.2 ∧
      c.Agrees (c.resolve r w).2.1 w (c.resolve r w).2.2 := by
  by_cases hu : r.url? = none
  · cases hk : c.registryFor? r with
    | none =>
      obtain ⟨x, hx⟩ := resolve_of_not_registryFor? (.inr hk) w
      rw [hx]
      exact ⟨h, .refl c w⟩
    | some k =>
      rw [resolve_of_registryFor? hu hk]
      exact lookup_steady h k r.text
  · obtain ⟨x, hx⟩ := resolve_of_not_registryFor? (.inl hu) w
    rw [hx]
    exact ⟨h, .refl c w⟩

theorem IsNew.poised (h : c.IsNew) (ht : w.tree.Sound) (hw : w.Calm) : c.Poised w := by
  refine ⟨ht, hw, h.orderly w.tree, fun k r hr => ?_⟩
  obtain ⟨settings, cache, rfl, -⟩ := h
  cases hr

end Client

namespace Command

variable {c c' : Client} {w w' : World}

theorem ask_agrees (h : c.Poised w) (h' : c'.Poised w') (ha : c.Agrees c' w w')
    (registry : Option Kind) (query : String) :
    (ask c' registry query w').1 = (ask c registry query w).1 := by
  cases registry with
  | some k =>
    change Outcome.mk query (some k) ((c'.lookup k query w').1.map _) = _
    rw [lookup_agrees h h' ha]
    rfl
  | none =>
    change Outcome.mk query _ (c'.resolve (Request.detect query) w').1 = _
    rw [resolve_agrees h h' ha]
    rfl

theorem ask_steady (h : c.Steady w) (registry : Option Kind) (query : String) :
    (ask c registry query w).2.1.Steady (ask c registry query w).2.2 ∧
      c.Agrees (ask c registry query w).2.1 w (ask c registry query w).2.2 := by
  cases registry with
  | some k => exact lookup_steady h k query
  | none => exact resolve_steady h (Request.detect query)

theorem askEach_cons (c : Client) (registry : Option Kind) (w : World) (q : String)
    (queries : List String) : (askEach c registry w (q :: queries)).1 =
      (ask c registry q w).1 ::
        (askEach (ask c registry q w).2.1 registry (ask c registry q w).2.2 queries).1 := rfl

theorem askEach_outcomes (h : c.Steady w) (registry : Option Kind) (queries : List String) :
    (askEach c registry w queries).1 = queries.map fun q => (ask c registry q w).1 := by
  -- From any client that agrees with this one, as the induction changes clients.
  suffices hall : ∀ d v, d.Steady v → c.Agrees d w v →
      (askEach d registry v queries).1 = queries.map fun q => (ask c registry q w).1 from
    hall c w h (.refl c w)
  induction queries with
  | nil => exact fun _ _ _ _ => rfl
  | cons q queries ih =>
    intro d v hd ha
    obtain ⟨hnext, hagrees⟩ := ask_steady hd registry q
    have hrest := ih _ _ hnext (ha.trans hagrees)
    have hfirst := ask_agrees h.toPoised hd.toPoised ha registry q
    rw [askEach_cons, hfirst, hrest]
    rfl

def ready (a : Arguments) (e : Settings.Environment) (w : World) : Option (Client × World) :=
  match client a e w.tree with
  | .error _ => none
  | .ok c =>
    match download c w (wanted a) with
    | (_, .error _, _, _) => none
    | (_, .ok (), c, w) =>
      if !a.listNames then some (c, w)
      else match names c w with
        | (.error _, _, _) => none
        | (.ok _, c, w) => some (c, w)

def outcomes (a : Arguments) (e : Settings.Environment) (w : World) : Option (List Outcome) :=
  (ready a e w).map fun (c, v) => (askEach c a.registry v a.queries).1

variable {a : Arguments} {e : Settings.Environment} {t : Tree} {v : World}

theorem download_poised (h : c.Poised w) (ks : List Kind) :
    (download c w ks).2.2.1.Poised (download c w ks).2.2.2 := by
  induction ks generalizing c w with
  | nil => exact h
  | cons k ks ih =>
    have hk := h.download k
    unfold download
    rcases hx : c.download k w with ⟨_ | _, d, v⟩
    · rw [hx] at hk
      exact hk
    · rw [hx] at hk
      exact ih hk

theorem names_poised (h : c.Poised w) : (names c w).2.1.Poised (names c w).2.2 := by
  have hrefresh := h.refresh .dns
  have hdone : ∀ x, x = (if ((c.refresh .dns w).2.loaded .dns).isNone then
      (c.refresh .dns w).2.download .dns w else (.ok (), (c.refresh .dns w).2, w)) →
      x.2.1.Poised x.2.2 := by
    rintro x rfl
    split
    · exact hrefresh.download .dns
    · exact hrefresh
  simp only [names, Client.registry]
  split
  · exact hdone _ rfl
  · exact (hdone _ rfl).refresh .dns

theorem client_eq_ok : client a e t = .ok c ↔
    a.isValid = true ∧ ∃ s, settings a e t = .ok s ∧ make s e.home = .ok c := by
  unfold client
  simp only [bind, Except.bind]
  cases a.isValid with
  | false => simp [throw, throwThe, MonadExceptOf.throw]
  | true =>
    cases settings a e t with
    | error f => simp
    | ok s => cases hm : make s e.home <;> simp [hm, Except.mapError]

theorem ready_eq_some :
    ready a e w = some (c, v) ↔ ∃ d notes d' v', client a e w.tree = .ok d ∧
      download d w (wanted a) = (notes, .ok (), d', v') ∧
      ((a.listNames = false ∧ d' = c ∧ v' = v) ∨
        a.listNames = true ∧ ∃ ns, names d' v' = (.ok ns, c, v)) := by
  unfold ready
  cases client a e w.tree with
  | error f => simp
  | ok d =>
    rcases hd : download d w (wanted a) with ⟨notes, _ | _, d', v'⟩
    · simp [hd]
    · cases a.listNames with
      | false => simp [hd]
      | true =>
        rcases hn : names d' v' with ⟨_ | _, d'', v''⟩
        · simp [hd, hn]
        · simp [hd, hn]

theorem poised_of_ready (ht : w.tree.Sound) (hw : w.Calm) (h : ready a e w = some (c, w')) :
    c.Poised w' := by
  obtain ⟨d, notes, d', v, hc, hd, hn⟩ := ready_eq_some.1 h
  obtain ⟨-, settings, -, hmake⟩ := client_eq_ok.1 hc
  have hpoised := download_poised ((isNew_of_make hmake).poised ht hw) (wanted a)
  rw [hd] at hpoised
  rcases hn with ⟨-, rfl, rfl⟩ | ⟨-, ns, hn⟩
  · exact hpoised
  · have hnames := names_poised hpoised
    rw [hn] at hnames
    exact hnames

theorem client_queries {queries : List String} (hq : queries ≠ []) (h : client a e t = .ok c) :
    client { a with queries } e t = .ok c := by
  have hvalid : ({ a with queries } : Arguments).isValid = true := by
    simp [Arguments.isValid, hq]
  have hsettings : settings { a with queries } e t = settings a e t := by
    simp only [settings, sections, Arguments.apply]
  obtain ⟨-, s, hs, hmake⟩ := client_eq_ok.1 h
  exact client_eq_ok.2 ⟨hvalid, s, hsettings.trans hs, hmake⟩

def transcript (a : Arguments) (head notes : List String) (os : List Outcome) : Transcript where
  output := head ++ if a.json then [(Json.Value.array (os.map Outcome.json)).text] else report os
  notes := notes
  succeeded := os.all (!·.failed)

theorem run_of_ready (h : ready a e w = some (c, v)) : ∃ head notes,
    (if a.listNames then ∃ ns, head = nameList ns else head = []) ∧
      ∀ queries, queries ≠ [] → (run { a with queries } e w).1 =
        transcript a head notes (askEach c a.registry v queries).1 := by
  obtain ⟨d, notes, d', v', hc, hd, hn⟩ := ready_eq_some.1 h
  have hrun : ∀ queries, queries ≠ [] → (run { a with queries } e w).1 =
      let t := (listAndAnswer { a with queries } d' v').1
      { t with notes := notes ++ t.notes } := by
    intro queries hq
    have hwanted : wanted { a with queries } = wanted a := rfl
    simp only [run, client_queries hq hc, runClient, hwanted, hd]
  rcases hn with ⟨hl, rfl, rfl⟩ | ⟨hl, ns, hn⟩
  · refine ⟨[], notes, by simp [hl], fun queries hq => ?_⟩
    rw [hrun queries hq]
    simp [listAndAnswer, hl, answerAll, hq, transcript]
  · refine ⟨nameList ns, notes, by simp [hl], fun queries hq => ?_⟩
    rw [hrun queries hq]
    simp [listAndAnswer, hl, hn, answerAll, hq, transcript]

theorem ready_queries (h : ready a e w = some (c, v)) {queries : List String} (hq : queries ≠ []) :
    ready { a with queries } e w = some (c, v) := by
  obtain ⟨d, notes, d', v', hc, hd, hn⟩ := ready_eq_some.1 h
  exact ready_eq_some.2 ⟨d, notes, d', v', client_queries hq hc, hd, hn⟩

theorem outcomes_independent (ht : w.tree.Sound) (hw : w.Calm) (hr : ready a e w = some (c, v))
    (hc : c.cache.Clear v.tree) : ∃ head notes, ∃ outcome : String → Outcome,
      ∀ queries, queries ≠ [] →
        outcomes { a with queries } e w = some (queries.map outcome) ∧
        (run { a with queries } e w).1 = transcript a head notes (queries.map outcome) := by
  have hpoised := poised_of_ready ht hw hr
  have hsteady : c.Steady v := ⟨hpoised, hc.lasting hpoised.sound v.now⟩
  obtain ⟨head, notes, -, hrun⟩ := run_of_ready hr
  refine ⟨head, notes, fun q => (ask c a.registry q v).1, fun queries hq => ?_⟩
  have hall := askEach_outcomes hsteady a.registry queries
  constructor
  · rw [outcomes, ready_queries hr hq]
    exact congrArg some hall
  · rw [hrun queries hq, hall]

def oldFile : World where
  tree := ⟨[([], .folder 0), (["x"], .folder 0), (["dns.json", "x"], .file noServices 0)], []⟩
  now := 1
  site url :=
    if url = "https://data.iana.org/rdap/dns.json" then
      { result := some (.ok ⟨200, "OK", czServers⟩) }
    else { result := some (.ok ⟨200, "OK", noServices⟩) }

theorem oldFile_sound : oldFile.tree.Sound := Files.Tree.sound_of_nodes rfl (by decide)

theorem oldFile_calm : oldFile.Calm := by
  intro url
  unfold oldFile
  dsimp only
  split <;> exact ⟨rfl, by simp⟩

def folderOf : Cache → Option String
  | .memory _ => none
  | .disk d => some d.folder

theorem oldFile_outcomes :
    let a : Arguments := { cacheDir := some "new/x" }
    ∃ outcome : String → Outcome, (outcome "example.cz").isMatch = true ∧
      outcomes { a with queries := ["example.cz"] } ⟨none, []⟩ oldFile =
        some [outcome "example.cz"] ∧
      outcomes { a with queries := ["AS1", "example.cz"] } ⟨none, []⟩ oldFile =
        some [outcome "AS1", outcome "example.cz"] := by
  intro a
  have hfolder : (ready { a with queries := ["AS1"] } ⟨none, []⟩ oldFile).map
      (fun x => folderOf x.1.cache) = some (some "new/x") := by
    decide +kernel
  obtain ⟨⟨c, v⟩, hr, hd⟩ := Option.map_eq_some_iff.1 hfolder
  have hsound := (poised_of_ready oldFile_sound oldFile_calm hr).sound
  have hc : c.cache.Clear v.tree := by
    cases hcache : c.cache with
    | memory m => trivial
    | disk d =>
      simp only [hcache, folderOf] at hd
      refine Tree.clear_of_straight ?_ hsound
      rw [Option.some.inj hd]
      decide +kernel
  obtain ⟨head, notes, outcome, h⟩ := outcomes_independent oldFile_sound oldFile_calm hr hc
  obtain ⟨halone, -⟩ := h ["example.cz"] (by simp)
  obtain ⟨hpair, -⟩ := h ["AS1", "example.cz"] (by simp)
  have hmatch : (outcomes { a with queries := ["example.cz"] } ⟨none, []⟩ oldFile).map
      (·.map Outcome.isMatch) = some [true] := by
    decide +kernel
  rw [halone] at hmatch
  exact ⟨outcome, by simpa using hmatch, halone, hpair⟩

/-- A step back out of a folder that is not there, until the first of two queries makes it. The
other one then finds a file that it would not have found alone. -/
theorem outcomes_influenced :
    let a : Arguments := { cacheDir := some "new/../x" }
    (outcomes { a with queries := ["example.cz"] } ⟨none, []⟩ oldFile).map
        (·.map Outcome.isMatch) = some [true] ∧
      (outcomes { a with queries := ["AS1", "example.cz"] } ⟨none, []⟩ oldFile).map
        (·.map Outcome.isMatch) = some [false, false] := by
  decide +kernel

end Command

end RdapDirectory
