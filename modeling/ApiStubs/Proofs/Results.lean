import Mathlib.Data.List.Basic

/-!
Lists of results: all of them values, or one that is the first error. Results whose errors, if they
are any, have a property, and ones whose values have one. Results that are errors exactly if some
list of errors has a first one.
-/

namespace ApiStubs

variable {f : α → Except ε β} {xs : List α}

theorem bind_eq_ok {x : Except ε α} {f : α → Except ε β} {b : β} :
    x >>= f = .ok b ↔ ∃ a, x = .ok a ∧ f a = .ok b := by
  cases x <;> simp [bind, Except.bind]

theorem mapM_eq_ok {g : α → β} (h : ∀ x ∈ xs, f x = .ok (g x)) : xs.mapM f = .ok (xs.map g) := by
  induction xs
  case nil => rfl
  case cons x xs hi =>
    have hx := h x List.mem_cons_self
    have hxs := hi fun y hy => h y (List.mem_cons_of_mem _ hy)
    simp only [List.mapM_cons, hx, hxs]
    rfl

theorem mapM_congr {g : α → Except ε β} (h : ∀ x ∈ xs, f x = g x) : xs.mapM f = xs.mapM g := by
  induction xs
  case nil => rfl
  case cons x xs hi =>
    have hx := h x List.mem_cons_self
    have hxs := hi fun y hy => h y (List.mem_cons_of_mem _ hy)
    simp only [List.mapM_cons, hx, hxs]

theorem exists_map_eq_ok (h : ∀ x ∈ xs, ∃ y, f x = .ok y) :
    ∃ ys : List β, xs.map f = ys.map .ok := by
  induction xs
  case nil => exact ⟨[], rfl⟩
  case cons x xs hi =>
    have ⟨y, hy⟩ := h x List.mem_cons_self
    have ⟨ys, hys⟩ := hi fun z hz => h z (List.mem_cons_of_mem _ hz)
    exact ⟨y :: ys, by rw [List.map_cons, hy, hys]; rfl⟩

theorem exists_first_error (h : ∃ x ∈ xs, ∃ e, f x = .error e) :
    ∃ before x after e, xs = before ++ x :: after ∧ (∀ b ∈ before, ∃ y, f b = .ok y) ∧
      f x = .error e := by
  induction xs
  case nil => simp at h
  case cons x xs hi =>
    cases hx : f x
    case error e => exact ⟨[], x, xs, e, rfl, by simp, hx⟩
    case ok y =>
      have hr : ∃ z ∈ xs, ∃ e, f z = .error e := by simpa [hx] using h
      have ⟨before, z, after, e, hs, hb, hz⟩ := hi hr
      refine ⟨x :: before, z, after, e, by rw [hs]; rfl, fun b hm => ?_, hz⟩
      cases hm
      case head    => exact ⟨y, hx⟩
      case tail hm => exact hb b hm

theorem mapM_of_map_eq_ok {ys : List β} (h : xs.map f = ys.map .ok) : xs.mapM f = .ok ys := by
  induction xs generalizing ys
  case nil =>
    have hn : ys = [] := by simpa using h.symm
    exact hn ▸ rfl
  case cons x xs hi =>
    cases ys
    case nil => simp at h
    case cons y ys =>
      have ⟨hx, hxs⟩ := List.cons.inj h
      simp only [List.mapM_cons, hx, hi hxs]
      rfl

theorem head?_of_mapM {ys : List β} (h : xs.mapM f = .ok ys) :
    xs.head?.map f = ys.head?.map .ok := by
  cases xs
  case nil =>
    cases h
    rfl
  case cons x xs =>
    rw [List.mapM_cons] at h
    have ⟨y, hx, h⟩ := bind_eq_ok.mp h
    have ⟨ys', _, h⟩ := bind_eq_ok.mp h
    cases h
    simp [hx]

theorem mapM_of_first_error {before after : List α} {x : α} {e : ε}
    (hb : ∀ b ∈ before, ∃ y, f b = .ok y) (hx : f x = .error e) :
    (before ++ x :: after).mapM f = .error e := by
  induction before
  case nil => simp only [List.nil_append, List.mapM_cons, hx, bind, Except.bind]
  case cons b before hi =>
    have ⟨y, hy⟩ := hb b List.mem_cons_self
    have hr := hi fun c hc => hb c (List.mem_cons_of_mem _ hc)
    simp only [List.cons_append, List.mapM_cons, hy, hr, bind, Except.bind]

theorem map_eq_ok_or_first_error (f : α → Except ε β) (xs : List α) :
    (∃ ys : List β, xs.map f = ys.map .ok) ∨
    ∃ before x after e, xs = before ++ x :: after ∧ (∀ b ∈ before, ∃ y, f b = .ok y) ∧
      f x = .error e := by
  by_cases he : ∃ x ∈ xs, ∃ e, f x = .error e
  case pos => exact .inr (exists_first_error he)
  case neg =>
    refine .inl <| exists_map_eq_ok fun x hm => ?_
    cases hx : f x
    case error e => exact absurd ⟨x, hm, e, hx⟩ he
    case ok y    => exact ⟨y, rfl⟩

-- Whatever error a result is, it has a property.
def FailsWith (p : ε → Prop) (x : Except ε α) : Prop :=
  ∀ e, x = .error e → p e

namespace FailsWith

variable {p : ε → Prop} {e : ε}

theorem ok {a : α} : FailsWith p (.ok a) := by
  intro e h
  cases h

theorem error (h : p e) : FailsWith p (.error e : Except ε α) := by
  rintro _ ⟨⟩
  exact h

theorem pure {a : α} : FailsWith p (pure a : Except ε α) :=
  .ok

theorem throw (h : p e) : FailsWith p (throw e : Except ε α) :=
  .error h

theorem bind {x : Except ε α} {f : α → Except ε β} (hx : FailsWith p x)
    (hf : ∀ a, x = .ok a → FailsWith p (f a)) : FailsWith p (x >>= f) := by
  cases x
  case error e => exact .error (hx e rfl)
  case ok a    => exact hf a rfl

theorem map {x : Except ε α} {f : α → β} (h : FailsWith p x) : FailsWith p (x.map f) := by
  cases x
  case error e => exact .error (h e rfl)
  case ok a    => exact .ok

theorem mapM {f : α → Except ε β} {xs : List α} (h : ∀ x ∈ xs, FailsWith p (f x)) :
    FailsWith p (xs.mapM f) := by
  induction xs
  case nil            => exact .ok
  case cons x rest hi =>
    rw [List.mapM_cons]
    refine .bind (h x List.mem_cons_self) fun _ _ => .bind ?_ fun _ _ => .ok
    exact hi fun y hy => h y (List.mem_cons_of_mem _ hy)

end FailsWith

-- Whatever value a result is, it has a property.
def Yields (p : α → Prop) (x : Except ε α) : Prop :=
  ∀ a, x = .ok a → p a

namespace Yields

theorem ok {p : α → Prop} {a : α} (h : p a) : Yields p (.ok a : Except ε α) := by
  rintro _ ⟨⟩
  exact h

theorem error {p : α → Prop} {e : ε} : Yields p (.error e) := by
  intro a h
  cases h

theorem bind {p : β → Prop} {x : Except ε α} {f : α → Except ε β}
    (h : ∀ a, x = .ok a → Yields p (f a)) : Yields p (x >>= f) := by
  cases x
  case error e => exact .error
  case ok a    => exact h a rfl

theorem map {p : β → Prop} {x : Except ε α} {f : α → β} (h : Yields (fun a => p (f a)) x) :
    Yields p (f <$> x) := by
  cases x
  case error e => exact .error
  case ok a    => exact .ok (h a rfl)

theorem mapM {p : β → Prop} {f : α → Except ε β} (h : ∀ x ∈ xs, Yields p (f x)) :
    Yields (fun ys => ∀ y ∈ ys, p y) (xs.mapM f) := by
  induction xs
  case nil            => exact .ok (by simp)
  case cons x rest hi =>
    rw [List.mapM_cons]
    refine .bind fun y hy => .bind fun ys hys => .ok <| List.forall_mem_cons.mpr ⟨?_, ?_⟩
    · exact h x List.mem_cons_self y hy
    · exact hi (fun z hz => h z (List.mem_cons_of_mem _ hz)) ys hys

-- What each step keeps holds in the end.
theorem foldlM {p : β → Prop} {f : β → α → Except ε β} {b : β} (hb : p b)
    (h : ∀ b x, p b → Yields p (f b x)) : Yields p (xs.foldlM f b) := by
  induction xs generalizing b
  case nil            => exact .ok hb
  case cons x rest hi =>
    rw [List.foldlM_cons]
    exact .bind fun b' hb' => hi (h b x hb b' hb')

end Yields

-- A result is the first of some errors, and a value if there are none.
def Reports (errors : List ε) (x : Except ε α) : Prop :=
  ∀ e, x = .error e ↔ errors.head? = some e

namespace Reports

variable {errors : List ε} {e : ε}

theorem ok {a : α} : Reports [] (.ok a : Except ε α) := by
  intro e
  simp

theorem error : Reports (e :: errors) (.error e : Except ε α) := by
  intro e'
  simp

theorem eq_nil {x : Except ε α} (h : Reports errors x) : (∃ a, x = .ok a) ↔ errors = [] := by
  cases x
  case error e =>
    have hh := (h e).mp rfl
    constructor
    case mp  => simp
    case mpr =>
      intro hn
      simp [hn] at hh
  case ok a =>
    have hh : errors.head? = none := Option.eq_none_iff_forall_ne_some.mpr fun e he =>
      nomatch (h e).mpr he
    simp [List.head?_eq_none_iff.mp hh]

theorem bind {later : List ε} {x : Except ε α} {f : α → Except ε β} (hx : Reports errors x)
    (hf : ∀ a, x = .ok a → Reports later (f a)) : Reports (errors ++ later) (x >>= f) := by
  cases x
  case error e =>
    have hh : (errors ++ later).head? = some e := by simp [(hx e).mp rfl]
    intro e'
    change Except.error e = .error e' ↔ _
    simp [hh]
  case ok a =>
    have hn := hx.eq_nil.mp ⟨a, rfl⟩
    rw [hn]
    exact hf a rfl

-- What cannot fail adds no errors.
theorem map {x : Except ε α} (f : α → β) (h : Reports errors x) :
    Reports errors (x >>= fun a => Pure.pure (f a)) := by
  have hb := h.bind (f := fun a => .ok (f a)) fun _ _ => .ok
  rw [List.append_nil] at hb
  exact hb

theorem mapM {f : α → Except ε β} {g : α → List ε} {xs : List α}
    (h : ∀ x ∈ xs, Reports (g x) (f x)) : Reports (xs.flatMap g) (xs.mapM f) := by
  induction xs
  case nil => exact .ok
  case cons x rest hi =>
    have hx := h x List.mem_cons_self
    have hr := hi fun y hy => h y (List.mem_cons_of_mem _ hy)
    rw [List.mapM_cons, List.flatMap_cons]
    apply hx.bind
    intro y _
    exact hr.map _

end Reports
end ApiStubs
