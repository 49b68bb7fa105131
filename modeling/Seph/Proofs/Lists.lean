/-!
# Lists

Laws of counting, filtering, joining and running through lists, of which several developments make use.
-/

namespace Seph

variable {α β : Type}

theorem countP_cons_toNat (f : α → Bool) (a : α) (as : List α) :
    (a :: as).countP f = (f a).toNat + as.countP f := by
  rw [List.countP_cons, Nat.add_comm]
  cases f a <;> rfl

theorem filterMap_cons_toList (f : α → Option β) (a : α) (as : List α) :
    (a :: as).filterMap f = (f a).toList ++ as.filterMap f := by
  rw [List.filterMap_cons]
  cases f a <;> rfl

theorem filterMap_concat (f : α → Option β) (as : List α) (a : α) :
    (as ++ [a]).filterMap f = as.filterMap f ++ (f a).toList := by
  rw [List.filterMap_append, filterMap_cons_toList, List.filterMap_nil, List.append_nil]

theorem getElem?_length_append (as bs : List α) : (as ++ bs)[as.length]? = bs.head? := by
  rw [List.getElem?_append_right (Nat.le_refl _), Nat.sub_self, List.head?_eq_getElem?]

theorem head?_append_of_some {as bs : List α} {a : α} (h : as.head? = some a) :
    (as ++ bs).head? = some a := by
  rw [List.head?_append, h]
  rfl

theorem fold_eq_foldl (n : Nat) (f : Nat → α → α) (a : α) :
    Nat.fold n (fun i _ => f i) a = (List.range n).foldl (fun a i => f i a) a := by
  induction n with
  | zero => rfl
  | succ n ih => rw [Nat.fold_succ, ih, List.range_succ, List.foldl_append]; rfl

/-- The entries of a list, and the default as often as they are too few. -/
theorem map_getD_range (l : List α) (d : α) {n : Nat} (h : l.length ≤ n) :
    (List.range n).map (l.getD · d) = l ++ List.replicate (n - l.length) d := by
  induction l generalizing n with
  | nil => simp [List.map_const']
  | cons a l ih =>
    obtain ⟨m, rfl⟩ : ∃ m, n = m + 1 := ⟨n - 1, by rw [List.length_cons] at h; omega⟩
    rw [List.length_cons] at h ⊢
    rw [List.range_succ_eq_map, List.map_cons, List.map_map, Nat.add_sub_add_right, List.cons_append,
      ← ih (Nat.le_of_succ_le_succ h)]
    rfl

/-- Points counted row by row. -/
theorem map_range_mul (f : Nat → Nat → α) (w h : Nat) :
    (List.range (w * h)).map (fun i => f (i % w) (i / w)) =
      (List.range h).flatMap fun y => (List.range w).map fun x => f x y := by
  induction h with
  | zero => simp
  | succ h ih =>
    rw [Nat.mul_succ, List.range_add, List.map_append, ih, List.range_succ, List.flatMap_append,
      List.flatMap_singleton, List.map_map]
    congr 1
    refine List.map_congr_left fun x hx => ?_
    have hx := List.mem_range.1 hx
    show f ((w * h + x) % w) ((w * h + x) / w) = f x h
    rw [Nat.mul_add_mod, Nat.mod_eq_of_lt hx, Nat.mul_add_div (Nat.zero_lt_of_lt hx),
      Nat.div_eq_of_lt hx, Nat.add_zero]

end Seph
