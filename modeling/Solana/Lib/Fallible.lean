import Mathlib.Data.List.Forall2

/-!
# Computations that may fail

Inversion of computations in `Except`: when a sequence, a mapped computation or a loop succeeds,
its parts did, and when a loop over a list fails, one of its turns did.  A proof about a fallible
function takes it apart with these and never looks at how `Except` is a monad.
-/

namespace Solana.Fallible

open List

variable {ε α β : Type}

@[simp] lemma ok_bind (a : α) (f : α → Except ε β) : (Except.ok a >>= f) = f a := rfl

@[simp] lemma error_bind (e : ε) (f : α → Except ε β) :
    ((Except.error e : Except ε α) >>= f) = .error e := rfl

@[simp] lemma pure_eq_ok (a : α) : (pure a : Except ε α) = .ok a := rfl

variable {x : Except ε α}

lemma exists_of_map_eq_ok {f : α → β} {b : β} (h : x.map f = .ok b) : ∃ a, x = .ok a ∧ f a = b := by
  cases x with
  | error e => cases h
  | ok a => exact ⟨a, rfl, Except.ok.inj h⟩

variable {f : α → Except ε β}

lemma exists_of_bind_eq_ok {b : β} (h : (x >>= f) = .ok b) : ∃ a, x = .ok a ∧ f a = .ok b := by
  cases x with
  | error e => cases h
  | ok a => exact ⟨a, rfl, h⟩

lemma exists_ok (h : x.toBool = true) : ∃ a, x = .ok a := by
  cases x with
  | error e => simp [Except.toBool] at h
  | ok a => exact ⟨a, rfl⟩

lemma exists_of_mapM_eq_ok : ∀ {xs : List α} {bs : List β},
    xs.mapM f = .ok bs → ∀ a ∈ xs, ∃ b, f a = .ok b
  | a :: xs, bs, h, x, hx => by
    rw [mapM_cons] at h
    cases ha : f a with
    | error e => simp [ha] at h
    | ok b =>
      rcases mem_cons.mp hx with rfl | hx
      · exact ⟨b, ha⟩
      · rw [ha, ok_bind] at h
        cases hxs : xs.mapM f with
        | error e => simp [hxs] at h
        | ok bs' => exact exists_of_mapM_eq_ok hxs x hx

/-- The results of a loop over a list are those of its turns, in order. -/
lemma forall₂_of_mapM_eq_ok : ∀ {xs : List α} {bs : List β},
    xs.mapM f = .ok bs → List.Forall₂ (fun a b => f a = .ok b) xs bs
  | [], bs, h => by
    obtain rfl : [] = bs := Except.ok.inj h
    exact .nil
  | a :: xs, bs, h => by
    rw [mapM_cons] at h
    obtain ⟨b, hb, h⟩ := exists_of_bind_eq_ok h
    obtain ⟨bs', hbs', h⟩ := exists_of_bind_eq_ok h
    obtain rfl := Except.ok.inj h
    exact .cons hb (forall₂_of_mapM_eq_ok hbs')

variable {bs : List β}

/-- What is seen of the results of a loop is what is seen of each turn. -/
lemma map_eq_of_mapM_eq_ok {γ : Type} {v : β → γ} {w : α → γ} (h : ∀ a b, f a = .ok b → v b = w a)
    {xs : List α} (hbs : xs.mapM f = .ok bs) : bs.map v = xs.map w := by
  have hall := forall₂_of_mapM_eq_ok hbs
  clear hbs
  induction hall with
  | nil => rfl
  | cons hab _ ih => rw [map_cons, map_cons, h _ _ hab, ih]

variable {R : α → β → Prop}

/-- A loop over a list succeeds if all its turns do, with related results. -/
lemma exists_mapM_forall₂ : ∀ (xs : List α),
    (∀ a ∈ xs, ∃ b, f a = .ok b ∧ R a b) → ∃ bs, xs.mapM f = .ok bs ∧ List.Forall₂ R xs bs
  | [], _ => ⟨[], rfl, .nil⟩
  | a :: xs, h => by
    obtain ⟨b, hb, hR⟩ := h a mem_cons_self
    obtain ⟨bs, hbs, hRs⟩ := exists_mapM_forall₂ xs fun x hx => h x (mem_cons_of_mem a hx)
    exact ⟨b :: bs, by simp [mapM_cons, hb, hbs], .cons hR hRs⟩

/-- Two loops one after the other, of which the second shows its results through a view. -/
lemma mapM_view {γ δ : Type} {f : β → Except ε γ} (v : γ → δ) {w : α → δ} {xs : List α}
    (hbs : List.Forall₂ R xs bs) (h : ∀ a b, R a b → ∃ c, f b = .ok c ∧ v c = w a) :
    ∃ cs, bs.mapM f = .ok cs ∧ cs.map v = xs.map w := by
  induction hbs with
  | nil => exact ⟨[], rfl, rfl⟩
  | cons hR _ ih =>
    obtain ⟨c, hc, hv⟩ := h _ _ hR
    obtain ⟨cs, hcs, hvs⟩ := ih
    exact ⟨c :: cs, by simp [mapM_cons, hc, hcs], by simp [hv, hvs]⟩

/-- The error of a loop over a list is the error of one of its turns. -/
lemma exists_of_mapM_eq_error : ∀ {xs : List α} {e : ε},
    xs.mapM f = .error e → ∃ a ∈ xs, f a = .error e
  | a :: xs, e, h => by
    rw [mapM_cons] at h
    cases ha : f a with
    | error e' =>
      rw [ha, error_bind] at h
      obtain rfl := Except.error.inj h
      exact ⟨a, mem_cons_self, ha⟩
    | ok b =>
      rw [ha, ok_bind] at h
      cases hxs : xs.mapM f with
      | error e' =>
        rw [hxs, error_bind] at h
        obtain rfl := Except.error.inj h
        obtain ⟨x, hx, hfx⟩ := exists_of_mapM_eq_error hxs
        exact ⟨x, mem_cons_of_mem a hx, hfx⟩
      | ok bs => simp [hxs] at h

lemma foldlM_invariant {f : β → α → Except ε β} (Inv : β → Prop) : ∀ {xs : List α} {b b' : β},
    (∀ a ∈ xs, ∀ b b', Inv b → f b a = .ok b' → Inv b') → Inv b → xs.foldlM f b = .ok b' → Inv b'
  | [], b, b', _, h0, h => by
    obtain rfl : b = b' := Except.ok.inj h
    exact h0
  | a :: xs, b, b', hstep, h0, h => by
    rw [foldlM_cons] at h
    obtain ⟨b₁, hb₁, h⟩ := exists_of_bind_eq_ok h
    exact foldlM_invariant Inv (fun x hx => hstep x (mem_cons_of_mem _ hx))
      (hstep a mem_cons_self b b₁ h0 hb₁) h

/-- **The simulation rule of a fallible loop.** -/
lemma foldlM_follows {σ τ : Type} {R : σ → τ → Prop} {f : σ → α → Except ε σ}
    {g : τ → α → τ} : ∀ {xs : List α} {s : σ} {t : τ},
    (∀ x ∈ xs, ∀ s t, R s t → ∃ s', f s x = .ok s' ∧ R s' (g t x)) → R s t →
    ∃ s', xs.foldlM f s = .ok s' ∧ R s' (xs.foldl g t)
  | [], s, t, _, h => ⟨s, rfl, h⟩
  | x :: xs, s, t, hstep, h => by
    obtain ⟨s₁, hs₁, h₁⟩ := hstep x mem_cons_self s t h
    obtain ⟨s', hs', h'⟩ := foldlM_follows (fun y hy => hstep y (mem_cons_of_mem _ hy)) h₁
    exact ⟨s', by rw [foldlM_cons, hs₁, ok_bind, hs'], h'⟩

/-! ## Lists related element by element -/

lemma forall₂_and_mem {p : β → Prop} {as : List α} (h : List.Forall₂ R as bs) (hp : ∀ b ∈ bs, p b) :
    List.Forall₂ (fun a b => R a b ∧ p b) as bs := by
  induction h with
  | nil => exact .nil
  | cons hab _ ih =>
    exact .cons ⟨hab, hp _ mem_cons_self⟩ (ih fun b hb => hp b (mem_cons_of_mem _ hb))

lemma exists_mem_of_forall₂ {as : List α} (h : List.Forall₂ R as bs) {b : β} (hb : b ∈ bs) :
    ∃ a ∈ as, R a b := by
  induction h with
  | nil => cases hb
  | cons hab _ ih =>
    rcases mem_cons.mp hb with rfl | hb
    · exact ⟨_, mem_cons_self, hab⟩
    · obtain ⟨a, ha, hR⟩ := ih hb
      exact ⟨a, mem_cons_of_mem _ ha, hR⟩

end Solana.Fallible
