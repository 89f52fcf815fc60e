import RdapDirectory.Proofs.FolderContents

namespace RdapDirectory.Cache

open Files Tree

abbrev Version := List UInt8 × Instant

inductive Taken where
  | loaded (version : Version)
  | saved (version : Version)
deriving DecidableEq

def Taken.version : Taken → Version
  | loaded v | saved v => v

/-- How far a call has come. What is read or written goes along with the time of its writing,
which no step depends on. -/
inductive Job where
  | idle
  | ended (result : Except Failure Version)
  | loading (name : String)
  | found (name : String) (changed : Instant)
  | held (name : String) (changed : Instant) (version : Version)
  | saving (name : String) (bytes : List UInt8)
  | prepared (name : String) (bytes : List UInt8)
  | written (name : String) (version : Version) (place : Place) (source : String)
  | moved (name : String) (version : Version)
  | looked (name : String) (version : Version) (changed : Instant)

namespace Job

def atRest : Job → Bool
  | idle | ended _ => true
  | _ => false

def name? : Job → Option String
  | idle | ended _ => none
  | loading name | found name _ | held name .. | saving name _ | prepared name _
  | written name .. | moved name _ | looked name .. => some name

def isBlank : Job → Bool
  | idle | ended _ | loading _ | saving .. | prepared .. => true
  | found .. | held .. | written .. | moved .. | looked .. => false

/-- The file that is to be moved into place next, by its name. -/
def underWay? : Job → Option (String × Version)
  | written name v .. => some (name, v)
  | _ => none

def hasMoved (name : String) : Job → Bool
  | moved other _ => other = name
  | _ => false

def isPrepared : Job → Bool
  | prepared .. => true
  | _ => false

def isWritten : Job → Bool
  | written .. => true
  | _ => false

end Job

structure Worker where
  disk : Disk
  job : Job
  taken : String → Option Taken

namespace Worker

def goOn (w : Worker) (job : Job) : Worker := { w with job }

def finish (w : Worker) (name : String) (changed : Instant) (x : Taken) : Worker :=
  ⟨w.disk.see name changed, .ended (.ok x.version), Function.update w.taken name (some x)⟩

def step (w : Worker) (t : Tree) (now : Instant) : Worker × Tree :=
  let fails (e : Failure) := w.goOn (.ended (.error e))
  match w.job with
  | .idle | .ended _ => (w, t)
  | .loading name =>
    match w.disk.modified t name with
    | .ok changed => (w.goOn (.found name changed), t)
    | .error e => (fails (Disk.readFault name e), t)
  | .found name changed =>
    match t.stat (w.disk.path name) with
    | .ok (.file bytes written) => (w.goOn (.held name changed (bytes, written)), t)
    | .ok (.folder _) => (fails (Disk.readFault name .isFolder), t)
    | .error e => (fails (Disk.readFault name e), t)
  | .held name changed v => (w.finish name changed (.loaded v), t)
  | .saving name bytes =>
    match w.disk.prepare t now with
    | (.ok (), t) => (w.goOn (.prepared name bytes), t)
    | (.error e, t) => (fails e, t)
  | .prepared name bytes =>
    match w.disk.place t with
    | .ok p =>
      let source := t.freshName p
      (w.goOn (.written name (bytes, now) p source), t.link p source (.file bytes now) now)
    | .error e => (fails (Disk.writeFault name e), t)
  | .written name v p source =>
    match t.moveOver p source (w.disk.path name) now with
    | .ok t => (w.goOn (.moved name v), t)
    | .error e => (fails (Disk.writeFault name e), t.unlink p source now)
  | .moved name v =>
    match w.disk.modified t name with
    | .ok changed => (w.goOn (.looked name v changed), t)
    | .error e => (fails (Disk.writeFault name e), t)
  | .looked name v changed => (w.finish name changed (.saved v), t)

def steps (count : Nat) (w : Worker) (t : Tree) (now : Instant) : Worker × Tree :=
  (fun x => x.1.step x.2 now)^[count] (w, t)

theorem lookup_finish (w : Worker) (name : String) (changed : Instant) (x : Taken)
    (other : String) : (w.finish name changed x).disk.seen.lookup other =
      if other = name then some changed else w.disk.seen.lookup other :=
  lookup_cons_eq ..

theorem taken_finish (w : Worker) (name : String) (changed : Instant) (x : Taken)
    (other : String) : (w.finish name changed x).taken other =
      if other = name then some x else w.taken other :=
  Function.update_apply ..

theorem steps_load {w : Worker} {name : String} (h : w.job = .loading name) (t : Tree)
    (now : Instant) :
    let r := w.steps 3 t now
    r.2 = t ∧ r.1.disk = (w.disk.load t name).2 ∧
      ∃ result, r.1.job = .ended result ∧ result.map Prod.fst = (w.disk.load t name).1 := by
  obtain ⟨d, job, taken⟩ := w
  cases h
  cases hs : t.stat (d.path name) with
  | error e =>
    have hm : d.modified t name = .error e := by
      rw [Disk.modified, hs]
      rfl
    have hl : d.load t name = (.error (Disk.readFault name e), d) := by
      simp only [Disk.load, hm]
    simp [steps, step, goOn, hm, hl, Except.map]
  | ok n =>
    have hm : d.modified t name = .ok n.modified := by
      rw [Disk.modified, hs]
      rfl
    cases n with
    | file bytes written =>
      have hr : t.read (d.path name) = .ok bytes := by
        rw [Tree.read, hs]
        rfl
      have hl : d.load t name = (.ok bytes, d.see name written) := by
        simp only [Disk.load, hm, hr, Node.modified]
      simp [steps, step, goOn, finish, hm, hs, hl, Except.map, Node.modified, Taken.version]
    | folder changed =>
      have hr : t.read (d.path name) = .error .isFolder := by
        rw [Tree.read, hs]
        rfl
      have hl : d.load t name = (.error (Disk.readFault name .isFolder), d) := by
        simp only [Disk.load, hm, hr]
      simp [steps, step, goOn, hm, hs, hl, Except.map]

theorem steps_save {w : Worker} {name : String} {bytes : List UInt8}
    (h : w.job = .saving name bytes) (t : Tree) (now : Instant) :
    let r := w.steps 5 t now
    r.2 = (w.disk.save t name bytes now).2.2 ∧ r.1.disk = (w.disk.save t name bytes now).2.1 ∧
      ∃ result, r.1.job = .ended result ∧
        result.map (fun _ => ()) = (w.disk.save t name bytes now).1 := by
  obtain ⟨d, job, taken⟩ := w
  cases h
  cases hp : d.prepare t now with
  | mk r u =>
    cases r with
    | error e => simp [steps, step, goOn, hp, Disk.save, Except.map]
    | ok _ =>
      cases hq : d.place u with
      | error e => simp [steps, step, goOn, hp, hq, Disk.save, Disk.replace, Except.map]
      | ok p =>
        set v := u.link p (u.freshName p) (.file bytes now) now with hv
        cases hm : v.moveOver p (u.freshName p) (d.path name) now with
        | error e =>
          simp [steps, step, goOn, hp, hq, ← hv, hm, Disk.save, Disk.replace, Except.map]
        | ok v' =>
          cases hl : d.modified v' name with
          | error e =>
            simp [steps, step, goOn, hp, hq, ← hv, hm, hl, Disk.save, Disk.replace, Except.map]
          | ok changed =>
            simp [steps, step, goOn, finish, hp, hq, ← hv, hm, hl, Disk.save, Disk.replace,
              Except.map]

end Worker

end RdapDirectory.Cache
