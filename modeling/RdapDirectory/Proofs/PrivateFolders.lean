import RdapDirectory.Files.Change
import RdapDirectory.Proofs.FolderContents

namespace RdapDirectory.Cache

open Files Tree

inductive Operation where
  | save (name : String) (bytes : List UInt8)
  | load (name : String)
  | freshness (name : String)
  | setTtl (seconds : Nat)
  | ttl

namespace Operation

inductive Result where
  | done (r : Except Failure Unit)
  | bytes (r : Except Failure (List UInt8))
  | freshness (f : Freshness)
  | seconds (n : Nat)
deriving DecidableEq

def name? : Operation → Option String
  | save name _ | load name | freshness name => some name
  | setTtl _ | ttl => none

end Operation

open Operation (Result)

def perform (c : Cache) (t : Tree) (now : Instant) : Operation → Result × Cache × Tree
  | .save name bytes =>
    let (r, c, t) := c.save t name bytes now
    (.done r, c, t)
  | .load name =>
    let (r, c) := c.load t name
    (.bytes r, c, t)
  | .freshness name => (.freshness (c.freshness t name now), c, t)
  | .setTtl seconds => (.done (.ok ()), c.setTtl seconds, t)
  | .ttl => (.seconds c.ttl, c, t)

def performEach (c : Cache) (t : Tree) : List (Instant × Operation) → List Result × Cache × Tree
  | [] => ([], c, t)
  | (now, o) :: rest =>
    let (r, c, t) := c.perform t now o
    let (rs, c, t) := c.performEach t rest
    (r :: rs, c, t)

/-- What the last of some operations that saves a file puts into it, where `before` was in it. -/
def lastSaved (name : String) (before : Option (List UInt8)) :
    List (Instant × Operation) → Option (List UInt8)
  | [] => before
  | (_, .save other bytes) :: rest =>
    lastSaved name (if name = other then some bytes else before) rest
  | _ :: rest => lastSaved name before rest

def loaded (name : String) : Option (List UInt8) → Except Failure (List UInt8)
  | some bytes => .ok bytes
  | none => .error (.cache name "not found in cache")

def Memory.kept (m : Memory) (name : String) : Option (List UInt8 × Instant) :=
  (m.records.lookup name).map fun r => (r.bytes, r.saved)

theorem Memory.kept_save (m : Memory) (name : String) (bytes : List UInt8) (now : Instant)
    (other : String) : (m.save name bytes now).kept other =
      if other = name then some (bytes, now) else m.kept other := by
  unfold kept save
  rw [lookup_cons_eq]
  by_cases ho : other = name <;> simp [ho]

theorem Memory.load_eq (m : Memory) (name : String) :
    m.load name = loaded name ((m.kept name).map (·.1)) := by
  unfold load kept
  cases m.records.lookup name <;> rfl

theorem Memory.freshness_eq (m : Memory) (name : String) (now : Instant) :
    m.freshness name now = match m.kept name with
      | none => .absent
      | some (_, saved) => if isExpired m.ttl saved now then .expired else .good := by
  unfold freshness kept
  cases m.records.lookup name <;> rfl

structure Mirrors (m : Memory) (d : Disk) (t : Tree) : Prop where
  here : t.IsFolder t.here
  ttl : d.ttl = m.ttl
  lists : t.Lists d.folder m.kept
  seen : ∀ name, d.seen.lookup name = (m.kept name).map (·.2)

namespace Mirrors

variable {m : Memory} {d : Disk} {t : Tree}

theorem empty {folder : String} {ttl : Nat} (hh : t.IsFolder t.here)
    (hl : t.Lists folder fun _ => none) :
    Mirrors (.empty ttl) (.inFolder folder ttl) t :=
  ⟨hh, rfl, hl, fun _ => rfl⟩

theorem save (h : Mirrors m d t) {name : String} (hn : IsPlain name) (bytes : List UInt8)
    (now : Instant) : ∃ u, d.save t name bytes now = (.ok (), d.see name now, u) ∧
      Mirrors (m.save name bytes now) (d.see name now) u := by
  obtain ⟨u, hu, hk, hr, hg⟩ := Disk.save_of_lists h.lists h.here hn bytes now
  refine ⟨u, hu, hk.here ▸ hk.folder _ h.here, h.ttl, lists_of_reaches hr fun other => ?_, ?_⟩
  · rw [home_congr hk.here, m.kept_save]
    exact hg other
  · intro other
    rw [m.kept_save]
    unfold Disk.see
    rw [lookup_cons_eq, h.seen]
    split <;> rfl

theorem load (h : Mirrors m d t) {name : String} (hn : IsPlain name) :
    (d.load t name).1 = m.load name ∧ Mirrors m (d.load t name).2 t := by
  rw [Disk.load_of_lists h.lists h.here hn, m.load_eq]
  cases hk : m.kept name with
  | none => exact ⟨rfl, h⟩
  | some x =>
    -- Loading takes note of a time that has been noted before.
    refine ⟨rfl, h.here, h.ttl, h.lists, fun other => ?_⟩
    unfold Disk.see
    rw [lookup_cons_eq, h.seen]
    by_cases ho : other = name
    · rw [if_pos ho, ho, hk]
      rfl
    · rw [if_neg ho]

theorem freshness (h : Mirrors m d t) {name : String} (hn : IsPlain name) (now : Instant) :
    d.freshness t name now = m.freshness name now := by
  have hseen := h.seen name
  unfold Disk.freshness
  rw [Disk.modified_of_lists h.lists h.here hn, m.freshness_eq, h.ttl]
  cases hk : m.kept name with
  | none => rfl
  | some x =>
    rw [hk] at hseen
    simp [hseen]

theorem perform (h : Mirrors m d t) {o : Operation} (ho : ∀ name ∈ o.name?, IsPlain name)
    (now : Instant) (s : Tree) : ∃ r m' d' u,
      (memory m).perform s now o = (r, memory m', s) ∧
      (disk d).perform t now o = (r, disk d', u) ∧ Mirrors m' d' u ∧
      r ≠ .freshness .outdated ∧
      ∀ name, (m'.kept name).map (·.1) = lastSaved name ((m.kept name).map (·.1)) [(now, o)] := by
  cases o with
  | save name bytes =>
    obtain ⟨u, hu, hm⟩ := h.save (ho name rfl) bytes now
    refine ⟨.done (.ok ()), m.save name bytes now, d.see name now, u, rfl, ?_, hm, ?_, ?_⟩
    · simp only [Cache.perform, Cache.save, hu]
    · intro he
      cases he
    · intro other
      rw [m.kept_save]
      simp only [lastSaved]
      split <;> rfl
  | load name =>
    obtain ⟨hr, hm⟩ := h.load (ho name rfl)
    refine ⟨.bytes (m.load name), m, (d.load t name).2, t, rfl, ?_, hm, ?_, fun _ => rfl⟩
    · simp only [Cache.perform, Cache.load, hr]
    · intro he
      cases he
  | freshness name =>
    have hf := h.freshness (ho name rfl) now
    refine ⟨.freshness (m.freshness name now), m, d, t, rfl, ?_, h, ?_, fun _ => rfl⟩
    · simp only [Cache.perform, Cache.freshness, hf]
    · rw [m.freshness_eq]
      intro he
      split at he
      · cases he
      · split at he <;> cases he
  | setTtl seconds =>
    refine ⟨.done (.ok ()), { m with ttl := seconds }, { d with ttl := seconds }, t, rfl, rfl,
      ⟨h.here, rfl, h.lists, h.seen⟩, ?_, fun _ => rfl⟩
    intro he
    cases he
  | ttl =>
    refine ⟨.seconds m.ttl, m, d, t, rfl, ?_, h, ?_, fun _ => rfl⟩
    · simp only [Cache.perform, Cache.ttl, h.ttl]
    · intro he
      cases he

theorem performEach (h : Mirrors m d t) {os : List (Instant × Operation)}
    (ho : ∀ o ∈ os, ∀ name ∈ o.2.name?, IsPlain name) (s : Tree) : ∃ rs m' d' u,
      (memory m).performEach s os = (rs, memory m', s) ∧
      (disk d).performEach t os = (rs, disk d', u) ∧ Mirrors m' d' u ∧
      .freshness .outdated ∉ rs ∧
      ∀ name, (m'.kept name).map (·.1) = lastSaved name ((m.kept name).map (·.1)) os := by
  induction os generalizing m d t with
  | nil => exact ⟨[], m, d, t, rfl, rfl, h, nofun, fun _ => rfl⟩
  | cons e rest ih =>
    obtain ⟨now, o⟩ := e
    obtain ⟨r, m₁, d₁, t₁, hm₁, hd₁, h₁, hr, hk₁⟩ := h.perform (ho _ List.mem_cons_self) now s
    obtain ⟨rs, m₂, d₂, t₂, hm₂, hd₂, h₂, hrs, hk₂⟩ :=
      ih h₁ fun o hmem => ho o (List.mem_cons_of_mem _ hmem)
    refine ⟨r :: rs, m₂, d₂, t₂, ?_, ?_, h₂, ?_, fun name => ?_⟩
    · simp only [Cache.performEach, hm₁, hm₂]
    · simp only [Cache.performEach, hd₁, hd₂]
    · simp [hr.symm, hrs]
    · rw [hk₂, hk₁]
      cases o <;> rfl

end Mirrors

theorem performEach_alike {t : Tree} {folder : String} (hh : t.IsFolder t.here)
    (hl : t.Lists folder fun _ => none) (ttl : Nat) (s : Tree) {os : List (Instant × Operation)}
    (ho : ∀ o ∈ os, ∀ name ∈ o.2.name?, IsPlain name) :
    let inMemory := (memory (.empty ttl)).performEach s os
    let onDisk := (disk (.inFolder folder ttl)).performEach t os
    onDisk.1 = inMemory.1 ∧ .freshness .outdated ∉ onDisk.1 ∧
      ∀ name, IsPlain name →
        (onDisk.2.1.load onDisk.2.2 name).1 = loaded name (lastSaved name none os) ∧
        (inMemory.2.1.load inMemory.2.2 name).1 = loaded name (lastSaved name none os) := by
  have hempty : Mirrors (.empty ttl) (.inFolder folder ttl) t := .empty hh hl
  obtain ⟨rs, m, d, u, hm, hd, h, hrs, hk⟩ := hempty.performEach ho s
  dsimp only
  rw [hm, hd]
  refine ⟨rfl, hrs, fun name hn => ?_⟩
  have hload : m.load name = loaded name (lastSaved name none os) := by
    rw [m.load_eq, hk]
    rfl
  exact ⟨(h.load hn).1.trans hload, hload⟩

theorem root_lists : (root 0).Lists "cache" fun _ => none := by
  refine ⟨.inr fun _ => rfl, fun now =>
    ⟨(root 0).link [] "cache" (.folder now) now, rfl, fun name => ?_⟩⟩
  have hhome : (root 0).home "cache" = ["cache"] := rfl
  have hroot : (root 0).IsFolder [] := ⟨0, rfl⟩
  rw [hhome, get?_link hroot]
  simp [root, Tree.get?, List.lookup]

def savedAgain : List (Instant × Operation) :=
  [(1, .load "dns.json"), (2, .save "dns.json" [1]), (3, .freshness "dns.json"), (4, .setTtl 1),
    (4 + second, .freshness "dns.json"), (4 + second, .load "dns.json"),
    (5 + second, .save "dns.json" [2]), (6 + second, .freshness "dns.json"), (6 + second, .ttl)]

theorem savedAgain_alike :
    let onDisk := (disk (.inFolder "cache" 60)).performEach (.root 0) savedAgain
    onDisk.1 = [.bytes (.error (.cache "dns.json" "not found in cache")), .done (.ok ()),
      .freshness .good, .done (.ok ()), .freshness .expired, .bytes (.ok [1]), .done (.ok ()),
      .freshness .good, .seconds 1] ∧
    (onDisk.2.1.load onDisk.2.2 "dns.json").1 = .ok [2] := by
  have hhere : (Tree.root 0).IsFolder (Tree.root 0).here := ⟨0, rfl⟩
  have hplain : IsPlain "dns.json" := by decide
  have hops : ∀ o ∈ savedAgain, ∀ name ∈ o.2.name?, IsPlain name := by
    simp [savedAgain, Operation.name?, hplain]
  obtain ⟨hsame, -, hload⟩ := performEach_alike hhere root_lists 60 (.root 0) hops
  exact ⟨hsame.trans (by decide +kernel), (hload "dns.json" hplain).1.trans (by decide +kernel)⟩

end RdapDirectory.Cache
