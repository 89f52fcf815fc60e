import Mathlib.Logic.Relation
import RdapDirectory.Files.Change
import RdapDirectory.Proofs.Retrieval

namespace RdapDirectory

open Files Cache Client
open Registry (Kind)

def Client.IsNew (c : Client) : Prop :=
  ∃ settings cache, c = withParts settings cache ∧ ∀ name, cache.seen? name = none

theorem Client.isNew_of_make {settings : Settings} {home : Option String} {c : Client}
    (h : make settings home = .ok c) : c.IsNew := by
  unfold make at h
  simp only [bind, Except.bind, pure, Except.pure] at h
  split at h
  · cases h
  · split at h
    · cases h
      exact ⟨settings, _, rfl, fun _ => rfl⟩
    · cases hd : settings.cacheDir with
      | some d =>
        simp only [hd] at h
        cases h
        exact ⟨settings, _, rfl, fun _ => rfl⟩
      | none =>
        simp only [hd] at h
        split at h
        · cases h
        · cases h
          exact ⟨settings, _, rfl, fun _ => rfl⟩

theorem Client.IsNew.orderly {c : Client} (h : c.IsNew) (t : Tree) : c.Orderly t := by
  obtain ⟨settings, cache, rfl, hseen⟩ := h
  constructor
  · cases cache <;> rfl
  · intro k s hs
    have hnone := hseen k.file
    cases cache with
    | memory m => cases hnone.symm.trans hs
    | disk d => cases hnone.symm.trans hs

structure System (ι : Type) where
  clients : ι → Client
  tree : Tree
  now : Instant

namespace System

structure Moment where
  now : Instant
  site : String → Reply
  cancelled : Bool

inductive Act (ι : Type) where
  | lookup (i : ι) (k : Kind) (query : String)
  | resolve (i : ι) (r : Request)
  | download (i : ι) (k : Kind)
  | registry (i : ι) (k : Kind)
  | write (t : Tree)

def Act.caller? {ι : Type} : Act ι → Option ι
  | lookup i .. | resolve i _ | download i _ | registry i _ => some i
  | write _ => none

variable {ι : Type}

def content (s : System ι) (i : ι) (k : Kind) : Option (List UInt8 × Instant) :=
  (s.clients i).cache.content? s.tree k.file

def stored (s : System ι) (i : ι) (k : Kind) : Option (List UInt8 × Instant) :=
  (s.clients i).cache.stored? s.tree k.file

def seen (s : System ι) (i : ι) (k : Kind) : Option Instant :=
  (s.clients i).cache.seen? k.file

def loaded (s : System ι) (i : ι) (k : Kind) : Option Registry := (s.clients i).loaded k

def world (s : System ι) (m : Moment) : World :=
  { tree := s.tree, now := m.now, site := m.site, cancelled := m.cancelled }

def asked (s : System ι) (m : Moment) : Act ι → List String
  | .lookup i k query => ((s.clients i).lookup k query (s.world m)).2.2.asked
  | .resolve i r => ((s.clients i).resolve r (s.world m)).2.2.asked
  | .download i k => ((s.clients i).download k (s.world m)).2.2.asked
  | .registry .. | .write _ => []

/-- The client and the registry that an act cannot do without. -/
def wants (s : System ι) : Act ι → Option (ι × Kind)
  | .lookup i k _ => some (i, k)
  | .resolve i r =>
    if r.url?.isSome then none else ((s.clients i).registryFor? r).map fun k => (i, k)
  | .download .. | .registry .. | .write _ => none

def reads (s : System ι) (a : Act ι) : Option (ι × Kind) :=
  match a with
  | .registry i k => some (i, k)
  | a => s.wants a

structure Written (s : System ι) (t : Tree) : Prop extends Tree.Keeps s.tree t where
  content : ∀ i k x, s.content i k = some x →
    ∃ y, (s.clients i).cache.content? t (Kind.file k) = some y

def Allows (s : System ι) : Act ι → Prop
  | .write t => s.Written t
  | _ => True

structure Starts (s : System ι) : Prop where
  fresh : ∀ i, (s.clients i).IsNew
  here : s.tree.IsFolder s.tree.here
  shared : ∀ i j, i ≠ j → (s.clients i).cache.SameFolder s.tree (s.clients j).cache

theorem Starts.seen {s : System ι} (h : s.Starts) (i : ι) (k : Kind) : s.seen i k = none := by
  obtain ⟨settings, cache, hc, hseen⟩ := h.fresh i
  unfold System.seen
  rw [hc]
  cases cache with
  | memory m => exact hseen k.file
  | disk d => exact hseen k.file

theorem content_of_stored {s : System ι} {i : ι} {k : Kind} {x : List UInt8 × Instant}
    (h : s.stored i k = some x) : s.content i k = some x :=
  content?_of_stored? k.isPlain_file h

theorem reads_of_wants {s : System ι} {a : Act ι} {p : ι × Kind} (h : s.wants a = some p) :
    s.reads a = some p := by
  cases a with
  | registry => cases h
  | lookup | resolve | download | write => exact h

theorem allows_of_wants {s : System ι} {a : Act ι} {p : ι × Kind} (h : s.wants a = some p) :
    s.Allows a := by
  cases a with
  | write => cases h
  | lookup | resolve | download | registry => exact trivial

theorem caller?_of_reads {s : System ι} {a : Act ι} {i : ι} {k : Kind}
    (h : s.reads a = some (i, k)) : a.caller? = some i := by
  cases a with
  | lookup j l query => cases h; rfl
  | resolve j q =>
    simp only [reads, wants] at h
    split at h
    · cases h
    · obtain ⟨l, -, he⟩ := Option.map_eq_some_iff.1 h
      cases he
      rfl
  | download j l => cases h
  | registry j l => cases h; rfl
  | write t => cases h

theorem written_of_save (s : System ι) (hh : s.tree.IsFolder s.tree.here) (c : Cache) (k : Kind)
    (bytes : List UInt8) (now : Instant) : s.Written (c.save s.tree k.file bytes now).2.2 := by
  cases c with
  | memory _ => exact ⟨.refl _, fun i l x hx => ⟨x, hx⟩⟩
  | disk d =>
    rcases Disk.save_cases (d := d) hh k.isPlain_file bytes now with
      ⟨e, u, hu, hg⟩ | ⟨u, hu, -, hg⟩
    · simp only [Cache.save, hu]
      exact ⟨hg.toKeeps, fun i l x hx => ⟨x, (content?_grows _ hg _).trans hx⟩⟩
    · simp only [Cache.save, hu]
      refine ⟨hg.toKeeps, fun i l x hx => ?_⟩
      unfold System.content at hx
      cases hc : (s.clients i).cache with
      | memory m =>
        rw [hc] at hx
        exact ⟨x, hx⟩
      | disk e =>
        rw [hc] at hx
        simp only [Cache.content?, Tree.home_congr hg.here, hg.file]
        split
        · exact ⟨_, rfl⟩
        · exact ⟨x, hx⟩

variable [DecidableEq ι]

def put (s : System ι) (i : ι) (c : Client) (w : World) : System ι :=
  ⟨fun j => if j = i then c else s.clients j, w.tree, w.now⟩

def after (s : System ι) (m : Moment) : Act ι → System ι
  | .lookup i k query =>
    let r := (s.clients i).lookup k query (s.world m)
    s.put i r.2.1 r.2.2
  | .resolve i q =>
    let r := (s.clients i).resolve q (s.world m)
    s.put i r.2.1 r.2.2
  | .download i k =>
    let r := (s.clients i).download k (s.world m)
    s.put i r.2.1 r.2.2
  | .registry i k => s.put i ((s.clients i).registry k (s.world m)).2 (s.world m)
  | .write t => ⟨s.clients, t, m.now⟩

def Run (P : System ι → Moment → Act ι → Prop) : System ι → System ι → Prop :=
  Relation.ReflTransGen fun s s' => ∃ m a, s.Allows a ∧ P s m a ∧ s' = s.after m a

theorem Run.refl {P : System ι → Moment → Act ι → Prop} (s : System ι) : Run P s s :=
  Relation.ReflTransGen.refl

theorem Run.act {P : System ι → Moment → Act ι → Prop} {s₀ s : System ι} (h : Run P s₀ s)
    {m : Moment} {a : Act ι} (ha : s.Allows a) (hp : P s m a) : Run P s₀ (s.after m a) :=
  Relation.ReflTransGen.tail h ⟨m, a, ha, hp, rfl⟩

theorem clients_put_same (s : System ι) (i : ι) (c : Client) (w : World) :
    (s.put i c w).clients i = c := if_pos rfl

theorem clients_put_other (s : System ι) {i j : ι} (h : j ≠ i) (c : Client) (w : World) :
    (s.put i c w).clients j = s.clients j := if_neg h

theorem provide_of_wants {s : System ι} {a : Act ι} {i : ι} {k : Kind}
    (h : s.wants a = some (i, k)) (m : Moment) :
    let r := (s.clients i).provide k (s.world m)
    s.after m a = s.put i r.2.1 r.2.2 ∧ s.asked m a = r.2.2.asked := by
  cases a with
  | lookup j l query =>
    obtain ⟨rfl, rfl⟩ := Prod.mk.inj (Option.some.inj h)
    simp only [after, asked, lookup_snd, and_self]
  | resolve j q =>
    simp only [wants] at h
    split at h
    · cases h
    · rename_i hu
      obtain ⟨l, hl, he⟩ := Option.map_eq_some_iff.1 h
      obtain ⟨rfl, rfl⟩ := Prod.mk.inj he
      have hsnd : ((s.clients j).resolve q (s.world m)).2 =
          ((s.clients j).provide l (s.world m)).2 := by
        rw [resolve_of_registryFor? (Option.not_isSome_iff_eq_none.1 hu) hl, lookup_snd]
      simp only [after, asked, hsnd, and_self]
  | download => cases h
  | registry => cases h
  | write => cases h

end System

end RdapDirectory
