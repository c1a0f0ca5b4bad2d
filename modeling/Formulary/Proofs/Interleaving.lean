/-!
# Interleavings

Two sequences of requests to a machine can be put into one in many ways that keep the order of each.  Where each request
of one is independent of each request of the other, all of them lead to one state (`Interleaving.foldl_eq`) and give
every request one reply (`Interleaving.repliesFrom`): those of the two sequences, the one after the other.
-/

namespace Formulary

/-- The items of two lists in one list, with those of each in their order. -/
inductive Interleaving {α : Type} : List α → List α → List α → Prop
  | nil : Interleaving [] [] []
  | left {a : α} {xs ys zs : List α} (h : Interleaving xs ys zs) : Interleaving (a :: xs) ys (a :: zs)
  | right {b : α} {xs ys zs : List α} (h : Interleaving xs ys zs) : Interleaving xs (b :: ys) (b :: zs)

section Machine

variable {σ α β : Type} (next : σ → α → σ) (reply : σ → α → β)

/-- The requests of a list with the replies that they get one after the other. -/
def repliesFrom : σ → List α → List (α × β)
  | _, [] => []
  | s, a :: as => (a, reply s a) :: repliesFrom (next s a) as

/-- Of two requests neither changes what the other gets and does. -/
structure Independent (a b : α) : Prop where
  next_comm : ∀ s, next (next s a) b = next (next s b) a
  reply_next : ∀ s, reply (next s a) b = reply s b
  next_reply : ∀ s, reply (next s b) a = reply s a

variable {next reply} {a b : α} {xs ys zs : List α}

/-- A request that is independent of those of a list can as well come after them. -/
theorem foldl_next_of_independent (h : ∀ b ∈ ys, Independent next reply a b) (s : σ) :
    ys.foldl next (next s a) = next (ys.foldl next s) a := by
  induction ys generalizing s with
  | nil => rfl
  | cons b ys ih =>
    rw [List.foldl_cons, List.foldl_cons, (h b List.mem_cons_self).next_comm,
      ih fun c hc => h c (List.mem_cons_of_mem b hc)]

theorem repliesFrom_next_of_independent (h : ∀ b ∈ ys, Independent next reply a b) (s : σ) :
    repliesFrom next reply (next s a) ys = repliesFrom next reply s ys := by
  induction ys generalizing s with
  | nil => rfl
  | cons b ys ih =>
    have hb := h b List.mem_cons_self
    rw [repliesFrom, repliesFrom, hb.reply_next, hb.next_comm, ih fun c hc => h c (List.mem_cons_of_mem b hc)]

theorem Independent.symm (h : Independent next reply a b) : Independent next reply b a where
  next_comm s := (h.next_comm s).symm
  reply_next := h.next_reply
  next_reply := h.reply_next

/-- All interleavings of independent requests lead to the same state. -/
theorem Interleaving.foldl_eq (h : Interleaving xs ys zs) (independent : ∀ a ∈ xs, ∀ b ∈ ys, Independent next reply a b)
    (s : σ) : zs.foldl next s = ys.foldl next (xs.foldl next s) := by
  induction h generalizing s with
  | nil => rfl
  | left h ih => exact ih (fun a ha => independent a (List.mem_cons_of_mem _ ha)) (next s _)
  | @right b xs ys zs h ih =>
    have hb : ∀ a ∈ xs, Independent next reply b a := fun a ha => (independent a ha b List.mem_cons_self).symm
    rw [List.foldl_cons, ih fun a ha c hc => independent a ha c (List.mem_cons_of_mem b hc),
      foldl_next_of_independent hb, List.foldl_cons]

/-- In all interleavings of independent requests each one gets the same reply. -/
theorem Interleaving.repliesFrom (h : Interleaving xs ys zs)
    (independent : ∀ a ∈ xs, ∀ b ∈ ys, Independent next reply a b) (s : σ) :
    Interleaving (repliesFrom next reply s xs) (repliesFrom next reply s ys) (repliesFrom next reply s zs) := by
  induction h generalizing s with
  | nil => exact .nil
  | @left a xs ys zs h ih =>
    have ha := repliesFrom_next_of_independent (independent a List.mem_cons_self) s
    have htail := ih (fun c hc => independent c (List.mem_cons_of_mem a hc)) (next s a)
    rw [ha] at htail
    exact .left htail
  | @right b xs ys zs h ih =>
    have hb : ∀ a ∈ xs, Independent next reply b a := fun a ha => (independent a ha b List.mem_cons_self).symm
    have htail := ih (fun a ha c hc => independent a ha c (List.mem_cons_of_mem b hc)) (next s b)
    rw [repliesFrom_next_of_independent hb] at htail
    exact .right htail

end Machine

end Formulary
