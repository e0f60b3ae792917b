import Mathlib.Algebra.BigOperators.Group.List.Basic

/-!
# Compositing at one pixel

Pixel values form a monoid: `s * d` is `s` drawn over `d`, and `1` is the transparent pixel.  A
drawing step at a pixel either replaces what is there (`Draw.put`) or goes over it
(`Draw.over`), and `paint` runs a list of steps.

A value that hides everything below it `Absorbs`.  A step `Resets` when its result does not
depend on what was there; whatever was painted before such a step does not matter
(`paint_eq_of_resets`).
-/

namespace Solana.Compositing

variable {α : Type*} [Monoid α]

/-- Drawn over anything, the value hides it. -/
def Absorbs (s : α) : Prop := ∀ d, s * d = s

/-- One drawing step at a pixel. -/
inductive Draw (α : Type*)
  | put (s : α)
  | over (s : α)

/-- What a step makes of the value that is there. -/
def Draw.apply : Draw α → α → α
  | .put s, _ => s
  | .over s, d => s * d

@[simp] lemma Draw.apply_put (s d : α) : (Draw.put s).apply d = s := rfl

@[simp] lemma Draw.apply_over (s d : α) : (Draw.over s).apply d = s * d := rfl

/-- Run a list of steps. -/
def paint (xs : List (Draw α)) (d : α) : α := xs.foldl (fun d x => x.apply d) d

@[simp] lemma paint_nil (d : α) : paint [] d = d := rfl

@[simp] lemma paint_cons (x : Draw α) (xs : List (Draw α)) (d : α) :
    paint (x :: xs) d = paint xs (x.apply d) := rfl

lemma paint_append (xs ys : List (Draw α)) (d : α) :
    paint (xs ++ ys) d = paint ys (paint xs d) := List.foldl_append

/-- The result of the step does not depend on what was there. -/
def Resets (x : Draw α) : Prop := ∀ d d', x.apply d = x.apply d'

lemma resets_put (s : α) : Resets (Draw.put s) := fun _ _ => rfl

lemma resets_over {s : α} (h : Absorbs s) : Resets (Draw.over s) := fun d d' => by
  simp [h d, h d']

/-- Steps before one that resets do not matter. -/
lemma paint_eq_of_resets {x : Draw α} (h : Resets x) (pre post : List (Draw α)) (d d' : α) :
    paint (pre ++ x :: post) d = paint (x :: post) d' := by
  rw [paint_append, paint_cons, paint_cons, h (paint pre d) d']

lemma paint_put_getLast {β : Type*} (f : β → α) {k top : β} {ks : List β}
    (h : (k :: ks).getLast? = some top) : paint (ks.map fun k => Draw.put (f k)) (f k) = f top := by
  induction ks generalizing k with
  | nil =>
    obtain rfl : k = top := by simpa using h
    rfl
  | cons k' ks ih =>
    rw [List.getLast?_cons_cons] at h
    exact ih h

end Solana.Compositing
