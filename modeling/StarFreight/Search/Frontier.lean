import StarFreight.Chart.StarSystem
/-!
# Search — the frontier

The systems that a search has reached and may go on from, the cheapest first.
Entries of equal cost leave in the order in which they came: a new entry is
placed behind all that cost no more.
-/

namespace StarFreight

/-- A system that was reached, and at what cost. -/
structure FrontierEntry where
  node : SystemId
  /-- The cost at which it was reached. -/
  cost : Nat
deriving DecidableEq, Repr

/-- Entries in ascending order of cost. -/
abbrev Frontier := List FrontierEntry

namespace Frontier

/-- Places an entry behind all that cost no more. -/
def insert (entry : FrontierEntry) : Frontier → Frontier
  | [] => [entry]
  | e :: queue => if e.cost ≤ entry.cost then e :: insert entry queue else entry :: e :: queue

/-- A frontier is in order when no entry costs more than a later one. -/
def Ordered (queue : Frontier) : Prop :=
  queue.Pairwise fun a b => a.cost ≤ b.cost

/-- An insertion only places the new entry among the old ones. -/
theorem insert_perm (entry : FrontierEntry) (queue : Frontier) :
    (insert entry queue).Perm (entry :: queue) := by
  induction queue with
  | nil => exact List.Perm.refl _
  | cons a queue ih =>
    unfold insert
    split
    · exact (ih.cons a).trans (List.Perm.swap entry a queue)
    · exact List.Perm.refl _

/-- The entries after an insertion are the new one and the old ones. -/
theorem mem_insert {entry e : FrontierEntry} {queue : Frontier} :
    e ∈ insert entry queue ↔ e = entry ∨ e ∈ queue := by
  rw [(insert_perm entry queue).mem_iff, List.mem_cons]

/-- An insertion adds one entry. -/
@[simp] theorem length_insert (entry : FrontierEntry) (queue : Frontier) :
    (insert entry queue).length = queue.length + 1 :=
  (insert_perm entry queue).length_eq

/-- In order, the first entry is the cheapest. -/
theorem Ordered.head_le {first e : FrontierEntry} {queue rest : Frontier} (h : Ordered queue)
    (hfirst : queue = first :: rest) (he : e ∈ queue) : first.cost ≤ e.cost := by
  subst hfirst
  rcases List.mem_cons.mp he with rfl | he
  · exact Nat.le_refl _
  · exact (List.pairwise_cons.mp h).1 e he

/-- An insertion keeps a frontier in order. -/
theorem Ordered.insert {entry : FrontierEntry} {queue : Frontier} (h : Ordered queue) :
    Ordered (insert entry queue) := by
  induction queue with
  | nil => simp [Frontier.insert, Ordered]
  | cons a queue ih =>
    obtain ⟨hhead, htail⟩ := List.pairwise_cons.mp h
    unfold Frontier.insert
    split
    · next hle =>
      refine List.pairwise_cons.mpr ⟨fun b hb => ?_, ih htail⟩
      rcases mem_insert.mp hb with rfl | hb
      · exact hle
      · exact hhead b hb
    · next hlt =>
      refine List.pairwise_cons.mpr ⟨fun b hb => ?_, h⟩
      rcases List.mem_cons.mp hb with rfl | hb
      · omega
      · have := hhead b hb; omega

end Frontier

end StarFreight
