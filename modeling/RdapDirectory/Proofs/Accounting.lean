import RdapDirectory.Proofs.Batches

namespace RdapDirectory

def Json.Value.member? (name : String) : Json.Value String → Option (Json.Value String)
  | .object members => members.lookup name
  | _ => none

namespace Command

open Client (World)
open Registry (Kind)
open Settings (Environment)

inductive Status where
  | failed
  | found
  | noMatch
deriving DecidableEq, Repr

namespace Status

def mark : Status → String
  | failed => "  ERROR"
  | found => "  FOUND"
  | noMatch => "  NO MATCH"

def heading (query : String) : String := "  " ++ String.ofList (Text.column 30 query.toList)

def ofLine? (query line : String) : Option Status :=
  [failed, found, noMatch].find? fun s => (heading query ++ s.mark).toList.isPrefixOf line.toList

theorem ofLine?_append (s : Status) (query rest : String) :
    ofLine? query (heading query ++ s.mark ++ rest) = some s := by
  have hmark : ∀ x : Status,
      (heading query ++ x.mark).toList.isPrefixOf (heading query ++ s.mark ++ rest).toList =
        x.mark.toList.isPrefixOf (s.mark.toList ++ rest.toList) := by
    intro x
    simp only [String.toList_append, List.append_assoc]
    rw [Bool.eq_iff_iff, List.isPrefixOf_iff_prefix, List.isPrefixOf_iff_prefix,
      List.prefix_append_right_inj]
  simp only [ofLine?, hmark]
  -- No mark is the start of another.
  cases s <;> rfl

end Status

structure Entry where
  query : String
  line : String
  urls : List Url

namespace Entry

def status? (e : Entry) : Option Status := Status.ofLine? e.query e.line

def lines (e : Entry) : List String := e.line :: e.urls.map fun u => s!"      {u.text}"

end Entry

namespace Outcome

def status (o : Outcome) : Status :=
  if o.failed then .failed else if o.isMatch then .found else .noMatch

structure HasEntry (o : Outcome) (e : Entry) : Prop where
  query : e.query = o.query
  lines : o.lines = e.lines
  status : e.status? = some o.status
  urls : e.urls ≠ [] → o.isMatch = true

theorem bare_of_failed {o : Outcome} (h : o.failed = true) :
    o.json.member? "answer" = none ∧ o.json.member? "urls" = none ∧ o.isMatch = false := by
  obtain ⟨query, registry, result⟩ := o
  cases result with
  | ok r => cases h
  | error f => cases registry <;> exact ⟨rfl, rfl, rfl⟩

theorem member?_error (o : Outcome) : (o.json.member? "error").isSome = o.failed := by
  obtain ⟨query, registry, result⟩ := o
  cases result with
  | error f => cases registry <;> rfl
  | ok r =>
    obtain ⟨answer, urls⟩ := r
    cases registry <;> cases answer <;> cases urls <;> rfl

theorem exists_lines (o : Outcome) : ∃ (rest : String) (urls : List Url),
    o.lines = Entry.lines ⟨o.query, Status.heading o.query ++ o.status.mark ++ rest, urls⟩ ∧
      (urls ≠ [] → o.isMatch = true) := by
  obtain ⟨query, registry, result⟩ := o
  cases result with
  | error f => exact ⟨_, [], by simp only [lines, String.append_assoc]; rfl, by simp⟩
  | ok r =>
    by_cases hm : isMatch ⟨query, registry, .ok r⟩ = true
    · have hstatus : status ⟨query, registry, .ok r⟩ = .found := if_pos hm
      exact ⟨_, shown r, by simp only [lines, hm, hstatus, String.append_assoc]; rfl, fun _ => hm⟩
    · have hstatus : status ⟨query, registry, .ok r⟩ = .noMatch := if_neg hm
      exact ⟨_, [], by simp only [lines, hm, hstatus, String.append_assoc]; rfl, by simp⟩

theorem exists_entry (o : Outcome) : ∃ e, o.HasEntry e := by
  obtain ⟨rest, urls, hlines, hurls⟩ := o.exists_lines
  exact ⟨_, rfl, hlines, Status.ofLine?_append o.status o.query rest, hurls⟩

theorem count_status (os : List Outcome) :
    (os.map status).count .failed = os.countP failed ∧
      (os.map status).count .found = os.countP isMatch ∧
      os.countP failed + os.countP isMatch + (os.map status).count .noMatch = os.length := by
  induction os with
  | nil => exact ⟨rfl, rfl, rfl⟩
  | cons o os ih =>
    obtain ⟨hfailed, hfound, hall⟩ := ih
    rw [List.map_cons, List.count_cons, List.count_cons, List.count_cons, List.countP_cons,
      List.countP_cons, List.length_cons, hfailed, hfound]
    by_cases hf : o.failed = true
    · obtain ⟨-, -, hm⟩ := bare_of_failed hf
      simp [status, hf, hm]
      omega
    · by_cases hm : o.isMatch = true
      · simp [status, hf, hm]
        omega
      · simp [status, hf, hm]
        omega

end Outcome

/-- The lines tell of the outcomes in their order, and the summary counts what they tell. -/
structure Accounting (os : List Outcome) (entries : List Entry) : Prop where
  order : List.Forall₂ Outcome.HasEntry os entries
  report : report os = entries.flatMap Entry.lines ++
    if 1 < os.length then ["", (Summary.ofOutcomes os).text] else []
  summary : Summary.ofOutcomes os =
    { matched := entries.countP (·.status? = some .found)
      unmatched := entries.countP (·.status? = some .noMatch)
      failed := entries.countP (·.status? = some .failed) }
  bound : os.countP Outcome.failed + os.countP Outcome.isMatch ≤ os.length

theorem exists_entries (os : List Outcome) :
    ∃ entries, List.Forall₂ Outcome.HasEntry os entries := by
  induction os with
  | nil => exact ⟨[], .nil⟩
  | cons o os ih =>
    obtain ⟨e, he⟩ := o.exists_entry
    obtain ⟨entries, h⟩ := ih
    exact ⟨e :: entries, .cons he h⟩

theorem flatMap_lines {os : List Outcome} {entries : List Entry}
    (h : List.Forall₂ Outcome.HasEntry os entries) :
    os.flatMap Outcome.lines = entries.flatMap Entry.lines := by
  induction h with
  | nil => rfl
  | cons he _ ih => rw [List.flatMap_cons, List.flatMap_cons, he.lines, ih]

theorem countP_status? {os : List Outcome} {entries : List Entry}
    (h : List.Forall₂ Outcome.HasEntry os entries) (s : Status) :
    entries.countP (·.status? = some s) = (os.map Outcome.status).count s := by
  induction h with
  | nil => rfl
  | cons he _ ih => simp [List.countP_cons, List.count_cons, he.status, ih]

theorem exists_accounting (os : List Outcome) : ∃ entries, Accounting os entries := by
  obtain ⟨entries, h⟩ := exists_entries os
  obtain ⟨hfailed, hfound, hall⟩ := Outcome.count_status os
  have hunmatched : os.length - os.countP Outcome.failed - os.countP Outcome.isMatch =
      (os.map Outcome.status).count .noMatch := by omega
  refine ⟨entries, h, ?_, ?_, by omega⟩
  · rw [report, flatMap_lines h]
  · simp only [Summary.ofOutcomes, countP_status? h, hfailed, hfound, hunmatched]

theorem askEach_queries (c : Client) (registry : Option Kind) (w : World) (queries : List String) :
    (askEach c registry w queries).1.map Outcome.query = queries := by
  induction queries generalizing c w with
  | nil => rfl
  | cons q queries ih =>
    have hquery : (ask c registry q w).1.query = q := by cases registry <;> rfl
    rw [askEach_cons, List.map_cons, hquery, ih]

def exitCode (args : List String) (e : Environment) (w : World) : Nat :=
  match Arguments.read args with
  | .ok a => (run a e w).1.code
  | .error h => h.code

inductive Downloads : List Kind → Client → World → Client → World → Prop
  | nil {c w} : Downloads [] c w c w
  | cons {k ks c w d v c' w'} (first : c.download k w = (.ok (), d, v))
      (rest : Downloads ks d v c' w') : Downloads (k :: ks) c w c' w'

inductive Succeeds (args : List String) (e : Environment) (w : World) : Prop
  | intro {a s c₁ c₂ c₃ w₂ w₃} (arguments : Arguments.read args = .ok a) (task : a.isValid = true)
      (settings : settings a e w.tree = .ok s) (client : Client.make s e.home = .ok c₁)
      (downloads : Downloads (wanted a) c₁ w c₂ w₂)
      (listing : (a.listNames = false ∧ c₂ = c₃ ∧ w₂ = w₃) ∨
        a.listNames = true ∧ ∃ ns, names c₂ w₂ = (.ok ns, c₃, w₃))
      (queries : ∀ o ∈ (askEach c₃ a.registry w₃ a.queries).1, o.failed = false)

variable {a : Arguments} {e : Environment} {c c' : Client} {w w' : World}

theorem download_eq_ok {ks : List Kind} :
    (∃ notes, download c w ks = (notes, .ok (), c', w')) ↔ Downloads ks c w c' w' := by
  induction ks generalizing c w with
  | nil =>
    constructor
    · rintro ⟨notes, h⟩
      cases h
      exact .nil
    · rintro ⟨⟩
      exact ⟨[], rfl⟩
  | cons k ks ih =>
    constructor
    · rintro ⟨notes, h⟩
      unfold download at h
      rcases hx : c.download k w with ⟨f | _, d, v⟩
      · rw [hx] at h
        cases h
      · rw [hx] at h
        obtain ⟨-, hrest⟩ := Prod.mk.inj h
        exact .cons hx (ih.1 ⟨_, Prod.ext rfl hrest⟩)
    · intro h
      cases h with
      | cons first rest =>
        obtain ⟨notes, hnotes⟩ := ih.2 rest
        simp [download, first, hnotes]

theorem succeeds_iff {args : List String} (ha : Arguments.read args = .ok a) :
    Succeeds args e w ↔ ∃ os, outcomes a e w = some os ∧ ∀ o ∈ os, o.failed = false := by
  simp only [outcomes, Option.map_eq_some_iff]
  constructor
  · rintro ⟨harguments, htask, hsettings, hclient, hdownloads, hlisting, hqueries⟩
    obtain rfl := Except.ok.inj (ha.symm.trans harguments)
    obtain ⟨notes, hnotes⟩ := download_eq_ok.2 hdownloads
    have hready := ready_eq_some.2
      ⟨_, notes, _, _, client_eq_ok.2 ⟨htask, _, hsettings, hclient⟩, hnotes, hlisting⟩
    exact ⟨_, ⟨_, hready, rfl⟩, hqueries⟩
  · rintro ⟨os, ⟨⟨c, v⟩, hready, rfl⟩, hqueries⟩
    obtain ⟨d, notes, d', v', hclient, hnotes, hlisting⟩ := ready_eq_some.1 hready
    obtain ⟨htask, s, hsettings, hmake⟩ := client_eq_ok.1 hclient
    exact ⟨ha, htask, hsettings, hmake, download_eq_ok.1 ⟨notes, hnotes⟩, hlisting, hqueries⟩

theorem answerAll_succeeded (a : Arguments) (c : Client) (w : World) :
    (answerAll a c w).1.succeeded = (askEach c a.registry w a.queries).1.all (!·.failed) := by
  unfold answerAll
  cases hq : a.queries with
  | nil => rfl
  | cons q queries => rfl

theorem run_succeeded (a : Arguments) (e : Environment) (w : World) :
    (run a e w).1.succeeded = (outcomes a e w).any fun os => os.all (!·.failed) := by
  unfold run outcomes ready
  cases client a e w.tree with
  | error f => rfl
  | ok c =>
    simp only [runClient]
    rcases download c w (wanted a) with ⟨notes, f | _, d, v⟩
    · rfl
    · simp only [listAndAnswer]
      cases a.listNames with
      | false => exact answerAll_succeeded a d v
      | true =>
        rcases names d v with ⟨f | ns, d', v'⟩
        · rfl
        · exact answerAll_succeeded a d' v'

theorem code_eq_zero {t : Transcript} : t.code = 0 ↔ t.succeeded = true := by
  simp [Transcript.code]

theorem output_of_outcomes {os : List Outcome} (h : outcomes a e w = some os)
    (hq : a.queries ≠ []) (hj : a.json = false) : ∃ head,
      (if a.listNames then ∃ ns, head = nameList ns else head = []) ∧
        (run a e w).1.output = head ++ report os := by
  obtain ⟨⟨c, v⟩, hready, rfl⟩ := Option.map_eq_some_iff.1 h
  obtain ⟨head, notes, hhead, hrun⟩ := run_of_ready hready
  refine ⟨head, hhead, ?_⟩
  have htranscript := hrun a.queries hq
  simp only [htranscript, transcript, hj, Bool.false_eq_true, if_false]

theorem run_accounted (args : List String) (e : Environment) (w : World) :
    (exitCode args e w = 0 ↔
      Arguments.read args = .error .information ∨ Succeeds args e w) ∧
    (∀ a os, Arguments.read args = .ok a → outcomes a e w = some os →
      os.map Outcome.query = a.queries ∧
        (a.queries ≠ [] → a.json = false → ∃ head,
          (if a.listNames then ∃ ns, head = nameList ns else head = []) ∧
            (run a e w).1.output = head ++ report os)) ∧
    ∀ os : List Outcome, (∃ entries, Accounting os entries) ∧
      ∀ o ∈ os, (o.json.member? "error").isSome = true →
        o.json.member? "answer" = none ∧ o.json.member? "urls" = none ∧ o.isMatch = false := by
  refine ⟨?_, ?_, ?_⟩
  · unfold exitCode
    cases hread : Arguments.read args with
    | error h =>
      have hfails : ¬ Succeeds args e w := by
        rintro ⟨harguments⟩
        rw [hread] at harguments
        cases harguments
      cases h <;> simp [Halt.code, hfails]
    | ok a =>
      rw [succeeds_iff hread, code_eq_zero, run_succeeded]
      simp [Option.any_eq_true]
  · intro a os hread hos
    constructor
    · obtain ⟨⟨c, v⟩, hready, rfl⟩ := Option.map_eq_some_iff.1 hos
      exact askEach_queries c a.registry v a.queries
    · exact output_of_outcomes hos
  · intro os
    refine ⟨exists_accounting os, fun o _ herror => ?_⟩
    rw [Outcome.member?_error] at herror
    exact Outcome.bare_of_failed herror

theorem run_accounted_of_each :
    let args := ["--cache-dir", "new", "example.cz", "example.com", "handle-1"]
    exitCode args ⟨none, []⟩ oldFile = 1 ∧
      Succeeds (args.take 4) ⟨none, []⟩ oldFile ∧
      ∃ a os, Arguments.read args = .ok a ∧ outcomes a ⟨none, []⟩ oldFile = some os ∧
        os.map Outcome.query = ["example.cz", "example.com", "handle-1"] ∧
        os.map Outcome.status = [.found, .noMatch, .failed] ∧
        (∃ entries, Accounting os entries) ∧
        (run a ⟨none, []⟩ oldFile).1.output = report os := by
  intro args
  let a : Arguments :=
    { cacheDir := some "new", queries := ["example.cz", "example.com", "handle-1"] }
  have hread : Arguments.read args = .ok a := rfl
  have hcode : exitCode args ⟨none, []⟩ oldFile = 1 := by decide +kernel
  have hfirst : exitCode (args.take 4) ⟨none, []⟩ oldFile = 0 := by decide +kernel
  have hstatus : (outcomes a ⟨none, []⟩ oldFile).map (·.map Outcome.status) =
      some [.found, .noMatch, .failed] := by
    decide +kernel
  obtain ⟨os, hos, hmarks⟩ := Option.map_eq_some_iff.1 hstatus
  obtain ⟨-, htells, haccounts⟩ := run_accounted args ⟨none, []⟩ oldFile
  obtain ⟨hqueries, houtput⟩ := htells a os hread hos
  obtain ⟨head, rfl, hhead⟩ := houtput (by simp [a]) rfl
  have hsucceeds := (run_accounted (args.take 4) ⟨none, []⟩ oldFile).1.1 hfirst
  refine ⟨hcode, ?_, a, os, hread, hos, hqueries, hmarks, (haccounts os).1, hhead⟩
  rcases hsucceeds with hasks | h
  · cases hasks
  · exact h

theorem exitCode_of_help :
    let args := ["--config", "missing.toml", "example.cz"]
    exitCode args ⟨none, []⟩ oldFile = 1 ∧
      ¬ (exitCode (args ++ ["--help"]) ⟨none, []⟩ oldFile = 0 ↔
        Succeeds (args ++ ["--help"]) ⟨none, []⟩ oldFile) := by
  intro args
  refine ⟨by decide +kernel, fun h => ?_⟩
  obtain ⟨hread⟩ := h.1 rfl
  cases hread

end Command
end RdapDirectory
