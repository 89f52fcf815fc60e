import RdapDirectory.Proofs.FolderContents

/-!
Caches that share a folder, whatever calls are made of them: what each of them says about a file
is decided by the calls that there have been.
-/

namespace RdapDirectory.Cache

open Files Tree

structure Peers (ι : Type) where
  cache : ι → Cache
  tree : Tree

namespace Peers

inductive Call (ι : Type) where
  | save (i : ι) (name : String) (bytes : List UInt8)
  | load (i : ι) (name : String)
  | setTtl (i : ι) (seconds : Nat)

abbrev History (ι : Type) := List (Instant × Call ι)

namespace Call

variable {ι : Type}

def isSave : Call ι → Bool
  | save .. => true
  | load .. | setTtl .. => false

def name? : Call ι → Option String
  | save _ name _ | load _ name => some name
  | setTtl .. => none

end Call

namespace History

variable {ι : Type}

def Timely : History ι → Prop
  | [] => True
  | (now, call) :: earlier =>
    Timely earlier ∧ (∀ e ∈ earlier, e.1 ≤ now) ∧ (∀ name ∈ call.name?, IsPlain name) ∧
      (call.isSave → ∀ e ∈ earlier, e.2.isSave → e.1 < now)

def lastSave? (name : String) : History ι → Option (List UInt8 × Instant)
  | [] => none
  | (now, .save _ other bytes) :: earlier =>
    if other = name then some (bytes, now) else lastSave? name earlier
  | _ :: earlier => lastSave? name earlier

theorem mem_of_lastSave? {h : History ι} {name : String} {bytes : List UInt8} {saved : Instant}
    (hs : h.lastSave? name = some (bytes, saved)) : ∃ e ∈ h, e.2.isSave = true ∧ e.1 = saved := by
  induction h with
  | nil => cases hs
  | cons e earlier ih =>
    obtain ⟨now, call⟩ := e
    cases call with
    | save j other written =>
      by_cases ho : other = name
      · rw [lastSave?, if_pos ho] at hs
        cases hs
        exact ⟨_, List.mem_cons_self, rfl, rfl⟩
      · rw [lastSave?, if_neg ho] at hs
        obtain ⟨e, he, hsave⟩ := ih hs
        exact ⟨e, List.mem_cons_of_mem _ he, hsave⟩
    | load | setTtl =>
      obtain ⟨e, he, hsave⟩ := ih hs
      exact ⟨e, List.mem_cons_of_mem _ he, hsave⟩

variable [DecidableEq ι]

/-- The last save of a file was made by this cache, or the cache has loaded the file since. -/
def hasSeen (i : ι) (name : String) : History ι → Bool
  | [] => false
  | (_, .save j other _) :: earlier => if other = name then j = i else hasSeen i name earlier
  | (_, .load j other) :: earlier => (j = i && other = name) || hasSeen i name earlier
  | (_, .setTtl ..) :: earlier => hasSeen i name earlier

def ttl (start : Nat) (i : ι) : History ι → Nat
  | [] => start
  | (_, .setTtl j seconds) :: earlier => if j = i then seconds else ttl start i earlier
  | _ :: earlier => ttl start i earlier

def freshness (h : History ι) (start : Nat) (i : ι) (name : String) (now : Instant) : Freshness :=
  match h.lastSave? name with
  | none => .absent
  | some (_, saved) =>
    if h.ttl start i * second ≤ now - saved then .expired
    else if h.hasSeen i name then .good
    else .outdated

omit [DecidableEq ι] in
theorem lastSave?_cons_other (h : History ι) {call : Call ι} {name other : String}
    (hc : call.name? = some other) (hne : name ≠ other) (t : Instant) :
    lastSave? name ((t, call) :: h) = h.lastSave? name := by
  cases call with
  | save j n bytes =>
    cases hc
    simp [lastSave?, Ne.symm hne]
  | load => rfl
  | setTtl => rfl

theorem freshness_cons_other (h : History ι) {call : Call ι} {name other : String}
    (hc : call.name? = some other) (hne : name ≠ other) (t : Instant) (start : Nat) (i : ι)
    (now : Instant) :
    freshness ((t, call) :: h) start i name now = h.freshness start i name now := by
  unfold freshness
  rw [lastSave?_cons_other h hc hne]
  cases call with
  | save j n bytes =>
    cases hc
    simp [hasSeen, ttl, Ne.symm hne]
  | load j n =>
    cases hc
    simp [hasSeen, ttl, Ne.symm hne]
  | setTtl => cases hc

end History

open History

variable {ι : Type} [DecidableEq ι]

def put (s : Peers ι) (i : ι) (c : Cache) (t : Tree) : Peers ι :=
  ⟨Function.update s.cache i c, t⟩

def after (s : Peers ι) (now : Instant) : Call ι → Peers ι
  | .save i name bytes =>
    let (_, c, t) := (s.cache i).save s.tree name bytes now
    s.put i c t
  | .load i name => s.put i ((s.cache i).load s.tree name).2 s.tree
  | .setTtl i seconds => s.put i ((s.cache i).setTtl seconds) s.tree

def run (s : Peers ι) : History ι → Peers ι
  | [] => s
  | (now, call) :: earlier => (s.run earlier).after now call

structure Starts (s : Peers ι) : Prop where
  here : s.tree.IsFolder s.tree.here
  shared : ∀ i j, i ≠ j → (s.cache i).SameFolder s.tree (s.cache j)
  cache : ∀ i, ∃ folder ttl, s.cache i = .disk (.inFolder folder ttl) ∧
    s.tree.Lists folder fun _ => none

/-- The version of a file that a cache has seen: none before the first save, and then the one last
saved, or an older one. -/
def SeenVersion (seen? : Option Instant) (saved? : Option (List UInt8 × Instant)) (latest : Bool) :
    Prop :=
  match saved? with
  | none => seen? = none
  | some (_, saved) => if latest then seen? = some saved else ∀ t ∈ seen?, t < saved

structure Told (start : Nat) (d : Disk) (t : Tree) (h : History ι) (i : ι) : Prop where
  lists : t.Lists d.folder (h.lastSave? ·)
  ttl : d.ttl = h.ttl start i
  seen : ∀ name, IsPlain name →
    SeenVersion (d.seen.lookup name) (h.lastSave? name) (h.hasSeen i name)

structure Follows (s₀ s : Peers ι) (h : History ι) : Prop where
  here : s.tree.IsFolder s.tree.here
  shared : ∀ i j, i ≠ j → (s.cache i).SameFolder s.tree (s.cache j)
  cache : ∀ i, ∃ d, s.cache i = .disk d ∧ Told (s₀.cache i).ttl d s.tree h i

variable {s₀ s : Peers ι} {h : History ι}

theorem Starts.follows (h₀ : s₀.Starts) : s₀.Follows s₀ [] := by
  refine ⟨h₀.here, h₀.shared, fun i => ?_⟩
  obtain ⟨folder, ttl, hc, hl⟩ := h₀.cache i
  refine ⟨_, hc, hl, ?_, fun name hn => rfl⟩
  rw [hc]
  rfl

theorem Follows.put (hf : s₀.Follows s h) {i : ι} {d : Disk} (hd : s.cache i = disk d) {e : Disk}
    (he : e.folder = d.folder) {t : Tree} (hk : s.tree.Keeps t) {x : Instant × Call ι}
    (own : Told (s₀.cache i).ttl e t (x :: h) i)
    (others : ∀ j d, j ≠ i → s.cache j = disk d → Told (s₀.cache j).ttl d s.tree h j →
      Told (s₀.cache j).ttl d t (x :: h) j) : s₀.Follows (s.put i (disk e) t) (x :: h) := by
  have halike : (s.cache i).Alike (disk e) := by
    rw [hd]
    exact he.symm
  refine ⟨hk.here ▸ hk.folder _ hf.here, fun a b hne => ?_, fun j => ?_⟩
  · have hab := (hf.shared a b hne).mono hk
    simp only [Peers.put]
    by_cases ha : a = i
    · subst ha
      rw [Function.update_self, Function.update_of_ne hne.symm]
      exact hab.alike halike
    · rw [Function.update_of_ne ha]
      by_cases hb : b = i
      · subst hb
        rw [Function.update_self]
        exact (hab.symm.alike halike).symm
      · rw [Function.update_of_ne hb]
        exact hab
  · simp only [Peers.put]
    by_cases hj : j = i
    · subst hj
      exact ⟨e, Function.update_self .., own⟩
    · obtain ⟨d', hd', ht⟩ := hf.cache j
      exact ⟨d', (Function.update_of_ne hj ..).trans hd', others j d' hj hd' ht⟩

omit [DecidableEq ι] in
theorem lastSave?_save (now : Instant) (i : ι) (name : String) (bytes : List UInt8)
    (other : String) : lastSave? other ((now, .save i name bytes) :: h) =
      if other = name then some (bytes, now) else h.lastSave? other := by
  by_cases ho : other = name
  · simp [lastSave?, ho]
  · simp [lastSave?, ho, Ne.symm ho]

theorem Told.save {start : Nat} {d : Disk} {t u : Tree} {i : ι} (hd : Told start d t h i)
    (now : Instant) (name : String) (bytes : List UInt8)
    (hl : u.Lists d.folder (lastSave? · ((now, .save i name bytes) :: h))) :
    Told start (d.see name now) u ((now, .save i name bytes) :: h) i := by
  refine ⟨hl, hd.ttl, fun other ho => ?_⟩
  simp only [Disk.see, lookup_cons_eq, lastSave?_save]
  by_cases he : other = name
  · simp [SeenVersion, hasSeen, he]
  · simpa [hasSeen, he, Ne.symm he] using hd.seen other ho

theorem Told.save_other {start : Nat} {d : Disk} {t u : Tree} {i j : ι} (hd : Told start d t h j)
    (hj : j ≠ i) {now : Instant} (hlate : ∀ e ∈ h, e.2.isSave → e.1 < now) (name : String)
    (bytes : List UInt8)
    (hl : u.Lists d.folder (lastSave? · ((now, .save i name bytes) :: h))) :
    Told start d u ((now, .save i name bytes) :: h) j := by
  refine ⟨hl, hd.ttl, fun other ho => ?_⟩
  have hseen := hd.seen other ho
  rw [lastSave?_save]
  by_cases he : other = name
  · subst he
    simp only [SeenVersion, hasSeen, if_true, Ne.symm hj, decide_false, Bool.false_eq_true,
      if_false]
    intro t ht
    unfold SeenVersion at hseen
    split at hseen
    · rw [hseen] at ht
      cases ht
    · rename_i saved hsaved
      obtain ⟨e, hmem, hsave, rfl⟩ := mem_of_lastSave? hsaved
      have hlt := hlate e hmem hsave
      split at hseen
      · rw [hseen] at ht
        cases ht
        exact hlt
      · exact Int.lt_trans (hseen t ht) hlt
  · simpa [hasSeen, he, Ne.symm he] using hseen

theorem Follows.save (hf : s₀.Follows s h) {now : Instant}
    (hlate : ∀ e ∈ h, e.2.isSave → e.1 < now) (i : ι) {name : String} (hn : IsPlain name)
    (bytes : List UInt8) :
    ((s.cache i).save s.tree name bytes now).1 = .ok () ∧
      s₀.Follows (s.after now (.save i name bytes)) ((now, .save i name bytes) :: h) := by
  obtain ⟨d, hd, ht⟩ := hf.cache i
  obtain ⟨u, hu, hk, hr, hg⟩ := Disk.save_of_lists ht.lists hf.here hn bytes now
  have hsave : (s.cache i).save s.tree name bytes now = (.ok (), disk (d.see name now), u) := by
    simp only [hd, Cache.save, hu]
  have hfiles : ∀ other, u.get? (other :: u.home d.folder) =
      (lastSave? other ((now, .save i name bytes) :: h)).map fun x => .file x.1 x.2 := by
    intro other
    rw [home_congr hk.here, lastSave?_save]
    exact hg other
  simp only [after, hsave]
  refine ⟨trivial, hf.put (e := d.see name now) hd rfl hk
    (ht.save now name bytes (lists_of_reaches hr hfiles)) ?_⟩
  intro j e hj he hte
  have hs := (hf.shared i j (Ne.symm hj)).mono hk
  rw [hd, he] at hs
  obtain ⟨hhome, hreach⟩ := hs
  exact hte.save_other hj hlate name bytes
    (lists_of_reaches ((hreach u (.refl u)).1 hr) (hhome ▸ hfiles))

theorem Follows.load_eq (hf : s₀.Follows s h) (i : ι) {name : String} (hn : IsPlain name) :
    ((s.cache i).load s.tree name).1 = match h.lastSave? name with
      | some (bytes, _) => .ok bytes
      | none => .error (.cache name "not found in cache") := by
  obtain ⟨d, hd, ht⟩ := hf.cache i
  simp only [hd, Cache.load, Disk.load_of_lists ht.lists hf.here hn]
  cases h.lastSave? name <;> rfl

theorem Told.load {start : Nat} {d : Disk} {t : Tree} {i : ι} (hd : Told start d t h i)
    (hh : t.IsFolder t.here) (now : Instant) {name : String} (hn : IsPlain name) :
    Told start (d.load t name).2 t ((now, .load i name) :: h) i ∧
      (d.load t name).2.folder = d.folder := by
  rw [Disk.load_of_lists hd.lists hh hn]
  cases hs : h.lastSave? name with
  | none =>
    refine ⟨⟨hd.lists, hd.ttl, fun other ho => ?_⟩, rfl⟩
    have hseen := hd.seen other ho
    by_cases he : other = name
    · subst he
      simpa [SeenVersion, lastSave?, hs] using hseen
    · simpa [lastSave?, hasSeen, Ne.symm he] using hseen
  | some x =>
    obtain ⟨bytes, saved⟩ := x
    refine ⟨⟨hd.lists, hd.ttl, fun other ho => ?_⟩, rfl⟩
    simp only [Disk.see, lookup_cons_eq]
    by_cases he : other = name
    · subst he
      simp [SeenVersion, lastSave?, hasSeen, hs]
    · simpa [lastSave?, hasSeen, he, Ne.symm he] using hd.seen other ho

theorem Follows.load (hf : s₀.Follows s h) (now : Instant) (i : ι) {name : String}
    (hn : IsPlain name) : s₀.Follows (s.after now (.load i name)) ((now, .load i name) :: h) := by
  obtain ⟨d, hd, ht⟩ := hf.cache i
  obtain ⟨hown, hfolder⟩ := ht.load hf.here now hn
  simp only [after, hd, Cache.load]
  refine hf.put hd hfolder (.refl _) hown fun j e hj _ hte => ⟨hte.lists, hte.ttl, ?_⟩
  intro other ho
  simpa [lastSave?, hasSeen, Ne.symm hj] using hte.seen other ho

theorem Follows.setTtl (hf : s₀.Follows s h) (now : Instant) (i : ι) (seconds : Nat) :
    s₀.Follows (s.after now (.setTtl i seconds)) ((now, .setTtl i seconds) :: h) := by
  obtain ⟨d, hd, ht⟩ := hf.cache i
  simp only [after, hd, Cache.setTtl]
  refine hf.put (e := { d with ttl := seconds }) hd rfl (.refl _)
    ⟨ht.lists, by simp [History.ttl], ht.seen⟩ fun j e hj _ hte => ⟨hte.lists, ?_, hte.seen⟩
  rw [History.ttl, if_neg (Ne.symm hj)]
  exact hte.ttl

theorem follows_run (h₀ : s₀.Starts) (ht : Timely h) : s₀.Follows (s₀.run h) h := by
  induction h with
  | nil => exact h₀.follows
  | cons e earlier ih =>
    obtain ⟨now, call⟩ := e
    obtain ⟨htimely, -, hplain, hlate⟩ := ht
    have hf := ih htimely
    cases call with
    | save i name bytes => exact (hf.save (hlate rfl) i (hplain name rfl) bytes).2
    | load i name => exact hf.load now i (hplain name rfl)
    | setTtl i seconds => exact hf.setTtl now i seconds

theorem Follows.freshness_eq (hf : s₀.Follows s h) (i : ι) {name : String} (hn : IsPlain name)
    {now : Instant} (hnow : ∀ e ∈ h, e.1 ≤ now) :
    (s.cache i).freshness s.tree name now = h.freshness (s₀.cache i).ttl i name now := by
  obtain ⟨d, hd, ht⟩ := hf.cache i
  have hseen := ht.seen name hn
  simp only [hd, Cache.freshness, Disk.freshness, Disk.modified_of_lists ht.lists hf.here hn,
    History.freshness]
  cases hs : h.lastSave? name with
  | none => rfl
  | some x =>
    obtain ⟨bytes, saved⟩ := x
    obtain ⟨e, hmem, -, rfl⟩ := mem_of_lastSave? hs
    have hage : max 0 (now - e.1) = now - e.1 :=
      Int.max_eq_right (Int.sub_nonneg_of_le (hnow e hmem))
    simp only [isExpired, hage, ht.ttl, decide_eq_true_eq]
    simp only [SeenVersion, hs] at hseen
    split
    · rfl
    · split at hseen
      · rename_i hlatest
        simp [hseen, hlatest]
      · rename_i hlatest
        rw [if_neg hlatest]
        cases hlook : d.seen.lookup name with
        | none => rfl
        | some t =>
          have hlt := hseen t hlook
          simp [Int.not_le.2 hlt]

theorem freshness_machine (h₀ : s₀.Starts) (ht : Timely h) (i : ι) {name : String}
    (hn : IsPlain name) :
    (∀ now, (∀ e ∈ h, e.1 ≤ now) → ((s₀.run h).cache i).freshness (s₀.run h).tree name now =
      h.freshness (s₀.cache i).ttl i name now) ∧
    ((s₀.run h).cache i |>.load (s₀.run h).tree name).1 = (match h.lastSave? name with
      | some (bytes, _) => .ok bytes
      | none => .error (.cache name "not found in cache")) ∧
    (∀ bytes now, Timely ((now, .save i name bytes) :: h) →
      ((s₀.run h).cache i |>.save (s₀.run h).tree name bytes now).1 = .ok ()) ∧
    ∀ t call other, Timely ((t, call) :: h) → call.name? = some other → name ≠ other →
      let s := (s₀.run h).after t call
      (s.cache i |>.load s.tree name).1 = ((s₀.run h).cache i |>.load (s₀.run h).tree name).1 ∧
        ∀ now, t ≤ now → (s.cache i).freshness s.tree name now =
          ((s₀.run h).cache i).freshness (s₀.run h).tree name now := by
  have hf := follows_run h₀ ht
  refine ⟨fun now hnow => hf.freshness_eq i hn hnow, hf.load_eq i hn, fun bytes now hlate => ?_,
    fun t call other hcall hother hne => ?_⟩
  · exact (hf.save (hlate.2.2.2 rfl) i hn bytes).1
  · have hf' : s₀.Follows ((s₀.run h).after t call) ((t, call) :: h) := follows_run h₀ hcall
    refine ⟨?_, fun now hle => ?_⟩
    · rw [hf'.load_eq i hn, hf.load_eq i hn, lastSave?_cons_other h hother hne]
    · have hnow : ∀ e ∈ h, e.1 ≤ now := fun e he => Int.le_trans (hcall.2.1 e he) hle
      have hnow' : ∀ e ∈ (t, call) :: h, e.1 ≤ now := by simpa [hle] using hnow
      rw [hf'.freshness_eq i hn hnow', hf.freshness_eq i hn hnow,
        freshness_cons_other h hother hne]

def twoPeers : Peers Bool where
  cache _ := disk (.inFolder "cache" 1)
  tree := ⟨[([], .folder 0), (["cache"], .folder 0)], []⟩

theorem twoPeers_starts : twoPeers.Starts := by
  refine ⟨⟨0, rfl⟩, fun _ _ _ => ⟨rfl, fun _ _ => .rfl⟩, fun i => ⟨"cache", 1, rfl, ?_⟩⟩
  have hr : twoPeers.tree.Reaches "cache" := ⟨rfl, 0, rfl⟩
  refine lists_of_reaches hr fun name => ?_
  have hhome : twoPeers.tree.home "cache" = ["cache"] := rfl
  rw [hhome]
  simp [twoPeers, Tree.get?, List.lookup]

def savedTwice : History Bool :=
  [(4, .save true "dns.json" [2]), (3, .load false "dns.json"), (1, .save true "dns.json" [1])]

theorem savedTwice_timely : Timely savedTwice := by
  have hplain : IsPlain "dns.json" := by decide
  simp [Timely, savedTwice, Call.name?, Call.isSave, hplain]

theorem savedTwice_freshness :
    let s := twoPeers.run savedTwice
    (s.cache true).freshness s.tree "dns.json" 4 = .good ∧
    (s.cache false).freshness s.tree "dns.json" 4 = .outdated ∧
    (s.cache false).freshness s.tree "dns.json" (4 + second) = .expired ∧
    (s.cache false).freshness s.tree "asn.json" 4 = .absent ∧
    (s.cache false |>.load s.tree "dns.json").1 = .ok [2] := by
  have hplain : IsPlain "dns.json" := by decide
  have hother : IsPlain "asn.json" := by decide
  have hown := freshness_machine twoPeers_starts savedTwice_timely true hplain
  have hpeer := freshness_machine twoPeers_starts savedTwice_timely false hplain
  have hnone := freshness_machine twoPeers_starts savedTwice_timely false hother
  have hlast : savedTwice.lastSave? "dns.json" = some ([2], 4) := by decide +kernel
  refine ⟨?_, ?_, ?_, ?_, ?_⟩
  · exact (hown.1 4 (by decide)).trans (by decide +kernel)
  · exact (hpeer.1 4 (by decide)).trans (by decide +kernel)
  · exact (hpeer.1 (4 + second) (by decide)).trans (by decide +kernel)
  · exact (hnone.1 4 (by decide)).trans (by decide +kernel)
  · rw [hpeer.2.1, hlast]

end Peers

end RdapDirectory.Cache
