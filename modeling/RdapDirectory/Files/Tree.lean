namespace RdapDirectory.Files

/-- A point in time, in nanoseconds. -/
abbrev Instant := Int

/-- The names that lead to a place, the innermost first. -/
abbrev Place := List String

inductive Node where
  | file (bytes : List UInt8) (modified : Instant)
  | folder (modified : Instant)
deriving DecidableEq

namespace Node

def modified : Node → Instant
  | file _ t | folder t => t

def isFolder : Node → Bool
  | file .. => false
  | folder _ => true

def touch (n : Node) (now : Instant) : Node :=
  match n with
  | file bytes _ => file bytes now
  | folder _ => folder now

end Node

/-- `here` is where relative paths start. -/
structure Tree where
  nodes : List (Place × Node)
  here : Place

namespace Tree

def get? (t : Tree) (p : Place) : Option Node := t.nodes.lookup p

def put (t : Tree) (p : Place) (n : Node) : Tree := { t with nodes := (p, n) :: t.nodes }

def erase (t : Tree) (p : Place) : Tree := { t with nodes := t.nodes.filter (·.1 ≠ p) }

theorem get?_put (t : Tree) (p q : Place) (n : Node) :
    (t.put p n).get? q = if q = p then some n else t.get? q := by
  by_cases h : q = p
  · simp [get?, put, h]
  · simp [get?, put, List.lookup_cons, h, beq_false_of_ne h]

theorem get?_erase (t : Tree) (p q : Place) :
    (t.erase p).get? q = if q = p then none else t.get? q := by
  simp only [get?, erase]
  induction t.nodes with
  | nil => simp
  | cons x r ih =>
    obtain ⟨y, n⟩ := x
    by_cases hy : y = p
    · rw [List.filter_cons_of_neg (by simpa using hy), ih, List.lookup_cons]
      split
      · rfl
      · rename_i hq
        rw [beq_false_of_ne fun h => hq (h.trans hy)]
    · rw [List.filter_cons_of_pos (by simpa using hy), List.lookup_cons, List.lookup_cons, ih]
      by_cases hq : q = y
      · subst hq
        simp [hy]
      · rw [beq_false_of_ne hq]

def touch (t : Tree) (p : Place) (now : Instant) : Tree :=
  match t.get? p with
  | some n => t.put p (n.touch now)
  | none => t

def link (t : Tree) (folder : Place) (name : String) (n : Node) (now : Instant) : Tree :=
  (t.put (name :: folder) n).touch folder now

def unlink (t : Tree) (folder : Place) (name : String) (now : Instant) : Tree :=
  (t.erase (name :: folder)).touch folder now

def names (t : Tree) (folder : Place) : List String :=
  (t.nodes.filterMap fun (p, _) =>
    match p with
    | name :: place => if place = folder then some name else none
    | [] => none).eraseDups

end Tree

end RdapDirectory.Files
