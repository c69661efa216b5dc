import Mathlib.Data.List.Basic
import MailScreen.Noted

/-!
# The first failure

A sequence of steps of which each may fail comes to its results if every step does, and otherwise to
the failure of the first step that fails. Rule lines, clauses and header parameters are all read in
this way, so who fails first is settled here once (`mapM_eq_error_iff`, `mapM_eq_ok_iff`).
-/
namespace MailScreen

variable {ε α β : Type}

/-- What is done with a result does not change a failure. -/
theorem map_eq_error_iff {f : α → β} {x : Except ε α} {failure : ε} :
    x.map f = .error failure ↔ x = .error failure := by
  cases x with
  | error e =>
    constructor
    · intro h
      exact congrArg _ (Except.error.inj h)
    · intro h
      exact congrArg _ (Except.error.inj h)
  | ok a => exact ⟨(nomatch ·), (nomatch ·)⟩

theorem map_eq_ok_iff {f : α → β} {x : Except ε α} {b : β} :
    x.map f = .ok b ↔ ∃ a, x = .ok a ∧ f a = b := by
  cases x with
  | error e => exact ⟨(nomatch ·), fun ⟨_, h, _⟩ => nomatch h⟩
  | ok a =>
    constructor
    · intro h
      exact ⟨a, rfl, Except.ok.inj h⟩
    · rintro ⟨a', h, rfl⟩
      obtain rfl := Except.ok.inj h
      rfl

theorem mapError_eq_error_iff {ε' : Type} {f : ε → ε'} {x : Except ε α} {failure : ε'} :
    x.mapError f = .error failure ↔ ∃ e, x = .error e ∧ f e = failure := by
  cases x with
  | error e =>
    constructor
    · intro h
      exact ⟨e, rfl, Except.error.inj h⟩
    · rintro ⟨e', h, rfl⟩
      obtain rfl := Except.error.inj h
      rfl
  | ok a => exact ⟨(nomatch ·), fun ⟨_, h, _⟩ => nomatch h⟩

/-- Two steps come to a result if both do. -/
theorem bind_eq_ok_iff {x : Except ε α} {f : α → Except ε β} {b : β} :
    (x >>= f) = .ok b ↔ ∃ a, x = .ok a ∧ f a = .ok b := by
  cases x with
  | error e =>
    constructor
    · intro h
      cases h
    · rintro ⟨a, h, -⟩
      cases h
  | ok a =>
    constructor
    · intro h
      exact ⟨a, rfl, h⟩
    · rintro ⟨a', h, hf⟩
      obtain rfl := Except.ok.inj h
      exact hf

/-- Two steps fail as the first does, or as the second does with what the first came to. -/
theorem bind_eq_error_iff {x : Except ε α} {f : α → Except ε β} {failure : ε} :
    (x >>= f) = .error failure ↔
      x = .error failure ∨ ∃ a, x = .ok a ∧ f a = .error failure := by
  cases x with
  | error e =>
    constructor
    · intro h
      exact .inl (congrArg _ (Except.error.inj h))
    · rintro (h | ⟨a, h, -⟩)
      · exact congrArg _ (Except.error.inj h)
      · cases h
  | ok a =>
    constructor
    · intro h
      exact .inr ⟨a, rfl, h⟩
    · rintro (h | ⟨b, h, hb⟩)
      · cases h
      · obtain rfl := Except.ok.inj h
        exact hb

/-- A step that fails, with the steps before it, which do not. -/
def FailsFirst (f : α → Except ε β) (steps : List α) (failure : ε) : Prop :=
  ∃ before step after, steps = before ++ step :: after ∧
    (∀ x ∈ before, ∃ y, f x = .ok y) ∧ f step = .error failure

theorem failsFirst_nil {f : α → Except ε β} {failure : ε} : ¬ FailsFirst f [] failure := by
  rintro ⟨before, step, after, h, -, -⟩
  simp at h

/-- A first step that fails is the first to fail. -/
theorem failsFirst_cons_error {f : α → Except ε β} {step : α} {rest : List α} {e failure : ε}
    (h : f step = .error e) : FailsFirst f (step :: rest) failure ↔ e = failure := by
  constructor
  · rintro ⟨before, other, after, hs, hb, ho⟩
    -- a step before the one that fails would be the first of all, which fails itself
    cases before with
    | nil =>
      obtain ⟨rfl, -⟩ := List.cons.inj hs
      exact Except.error.inj (h.symm.trans ho)
    | cons b bs =>
      obtain ⟨rfl, -⟩ := List.cons.inj hs
      obtain ⟨y, hy⟩ := hb step (List.mem_cons_self ..)
      rw [h] at hy
      cases hy
  · rintro rfl
    exact ⟨[], step, rest, rfl, by simp, h⟩

/-- After a step that does not fail, the first to fail is that of the rest. -/
theorem failsFirst_cons_ok {f : α → Except ε β} {step : α} {rest : List α} {y : β} {failure : ε}
    (h : f step = .ok y) : FailsFirst f (step :: rest) failure ↔ FailsFirst f rest failure := by
  constructor
  · rintro ⟨before, other, after, hs, hb, ho⟩
    cases before with
    | nil =>
      obtain ⟨rfl, -⟩ := List.cons.inj hs
      rw [h] at ho
      cases ho
    | cons b bs =>
      obtain ⟨rfl, rfl⟩ := List.cons.inj hs
      exact ⟨bs, other, after, rfl, fun x hx => hb x (List.mem_cons_of_mem _ hx), ho⟩
  · rintro ⟨before, other, after, rfl, hb, ho⟩
    refine ⟨step :: before, other, after, rfl, ?_, ho⟩
    intro x hx
    rcases List.mem_cons.mp hx with rfl | hx
    · exact ⟨y, h⟩
    · exact hb x hx

/-- **A sequence of steps fails as its first failing step does.** -/
theorem mapM_eq_error_iff {f : α → Except ε β} {steps : List α} {failure : ε} :
    steps.mapM f = .error failure ↔ FailsFirst f steps failure := by
  induction steps with
  | nil => exact ⟨(nomatch ·), fun h => absurd h failsFirst_nil⟩
  | cons step rest ih =>
    rw [List.mapM_cons]
    cases h : f step with
    | error e =>
      rw [failsFirst_cons_error h]
      exact ⟨Except.error.inj, fun he => congrArg _ he⟩
    | ok y =>
      rw [failsFirst_cons_ok h, ← ih]
      cases rest.mapM f with
      | error e => exact Iff.rfl
      | ok ys => exact ⟨(nomatch ·), (nomatch ·)⟩

/-- A sequence of steps comes to results if every step comes to its own. -/
theorem mapM_eq_ok_iff {f : α → Except ε β} {steps : List α} {results : List β} :
    steps.mapM f = .ok results ↔ List.Forall₂ (fun x y => f x = .ok y) steps results := by
  induction steps generalizing results with
  | nil =>
    constructor
    · intro h
      obtain rfl : [] = results := Except.ok.inj h
      exact .nil
    · intro h
      cases h
      rfl
  | cons step rest ih =>
    rw [List.mapM_cons]
    constructor
    · intro h
      cases hs : f step with
      | error e => rw [hs] at h; cases h
      | ok y =>
        rw [hs] at h
        cases hr : rest.mapM f with
        | error e => rw [hr] at h; cases h
        | ok ys =>
          rw [hr] at h
          obtain rfl : y :: ys = results := Except.ok.inj h
          exact .cons hs (ih.mp hr)
    · intro h
      cases h with
      | cons hs hr => rw [hs, ih.mpr hr]; rfl

/-- A result is that of one of the steps. -/
theorem exists_of_mem_mapM {f : α → Except ε β} {steps : List α} {results : List β} {y : β}
    (h : steps.mapM f = .ok results) (hy : y ∈ results) : ∃ x ∈ steps, f x = .ok y := by
  rw [mapM_eq_ok_iff] at h
  induction h with
  | nil => cases hy
  | cons hs _ ih =>
    rcases List.mem_cons.mp hy with rfl | hy
    · exact ⟨_, List.mem_cons_self .., hs⟩
    · obtain ⟨x, hx, hf⟩ := ih hy
      exact ⟨x, List.mem_cons_of_mem _ hx, hf⟩

/-- A run of steps over a state fails at the first step that fails in the state it is taken in. -/
theorem foldlM_eq_error_iff {σ : Type} {f : σ → α → Except ε σ} {steps : List α} {start : σ}
    {failure : ε} :
    steps.foldlM f start = .error failure ↔
      ∃ before step after state, steps = before ++ step :: after ∧
        before.foldlM f start = .ok state ∧ f state step = .error failure := by
  induction steps generalizing start with
  | nil =>
    constructor
    · intro h
      cases h
    · rintro ⟨before, step, after, -, h, -⟩
      simp at h
  | cons first rest ih =>
    rw [List.foldlM_cons, bind_eq_error_iff]
    constructor
    · rintro (h | ⟨next, hn, h⟩)
      · exact ⟨[], first, rest, start, rfl, rfl, h⟩
      · obtain ⟨before, step, after, state, rfl, hb, hs⟩ := ih.mp h
        refine ⟨first :: before, step, after, state, rfl, ?_, hs⟩
        rw [List.foldlM_cons, hn]
        exact hb
    · rintro ⟨before, step, after, state, h, hb, hs⟩
      cases before with
      | nil =>
        obtain ⟨rfl, -⟩ := List.cons.inj h
        obtain rfl := Except.ok.inj hb
        exact .inl hs
      | cons b before =>
        obtain ⟨rfl, rfl⟩ := List.cons.inj h
        rw [List.foldlM_cons] at hb
        cases hn : f start first with
        | error e => rw [hn] at hb; cases hb
        | ok next =>
          rw [hn] at hb
          exact .inr ⟨next, rfl, ih.mpr ⟨before, step, after, state, rfl, hb, hs⟩⟩

/-- If what a step fails with does not depend on the state, neither does which step is the first to
fail. -/
theorem foldlM_eq_error_iff_failsFirst {σ : Type} {f : α → Except ε β} {g : σ → α → β → σ}
    {steps : List α} {start : σ} {failure : ε} :
    steps.foldlM (fun state x => f x >>= fun y => pure (g state x y)) start = .error failure ↔
      FailsFirst f steps failure := by
  induction steps generalizing start with
  | nil => exact ⟨(nomatch ·), fun h => absurd h failsFirst_nil⟩
  | cons step rest ih =>
    rw [List.foldlM_cons]
    cases h : f step with
    | error e =>
      rw [failsFirst_cons_error h]
      exact ⟨Except.error.inj, fun he => congrArg _ he⟩
    | ok y =>
      rw [failsFirst_cons_ok h]
      exact ih

/-- Steps that do not all come to a result have one that fails. -/
theorem exists_mapM_eq_ok_iff {f : α → Except ε β} {steps : List α} :
    (∃ results, steps.mapM f = .ok results) ↔ ∀ x ∈ steps, ∃ y, f x = .ok y := by
  constructor
  · rintro ⟨results, h⟩
    rw [mapM_eq_ok_iff] at h
    induction h with
    | nil => simp
    | cons hs _ ih =>
      intro x hx
      rcases List.mem_cons.mp hx with rfl | hx
      · exact ⟨_, hs⟩
      · exact ih x hx
  · intro h
    cases hm : steps.mapM f with
    | ok results => exact ⟨results, rfl⟩
    | error e =>
      obtain ⟨before, step, after, rfl, -, hs⟩ := mapM_eq_error_iff.mp hm
      obtain ⟨y, hy⟩ := h step (by simp)
      rw [hs] at hy
      cases hy

/-! ## Steps that note what they do -/

namespace Noted

variable {σ : Type}

theorem eq_pure_iff {x : Noted ε α} {a : α} : x = pure a ↔ x.log = [] ∧ x.result = .ok a := by
  obtain ⟨log, result⟩ := x
  exact Noted.mk.injEq .. ▸ Iff.rfl

/-- Two steps come to a result with nothing noted if both do. -/
theorem bind_eq_pure_iff {x : Noted ε α} {f : α → Noted ε β} {b : β} :
    x >>= f = pure b ↔ ∃ a, x = pure a ∧ f a = pure b := by
  constructor
  · intro h
    obtain ⟨log, result⟩ := x
    cases result with
    | error e => exact absurd (congrArg Noted.result h) (by simp [bind, andThen])
    | ok a =>
      have hlog : log ++ (f a).log = [] := congrArg Noted.log h
      have hresult : (f a).result = .ok b := congrArg Noted.result h
      obtain ⟨rfl, hf⟩ := List.append_eq_nil_iff.mp hlog
      exact ⟨a, rfl, eq_pure_iff.mpr ⟨hf, hresult⟩⟩
  · rintro ⟨a, rfl, hf⟩
    exact hf

theorem result_foldlM (f : σ → α → Noted ε σ) (steps : List α) (start : σ) :
    (steps.foldlM f start).result = steps.foldlM (fun state x => (f state x).result) start := by
  induction steps generalizing start with
  | nil => rfl
  | cons step rest ih =>
    show (f start step >>= fun state => rest.foldlM f state).result = _
    simp only [result_bind, ih, List.foldlM_cons]

theorem result_mapM (f : α → Noted ε β) (steps : List α) :
    (steps.mapM f).result = steps.mapM fun x => (f x).result := by
  -- what is done is collected on the way, so the induction is on the loop for any of it
  have loop : ∀ done, (List.mapM.loop f steps done).result =
      List.mapM.loop (fun x => (f x).result) steps done := by
    induction steps with
    | nil => exact fun _ => rfl
    | cons step rest ih =>
      intro done
      show (f step >>= fun y => List.mapM.loop f rest (y :: done)).result = _
      simp only [result_bind, ih]
      rfl
  exact loop []

end Noted

end MailScreen
