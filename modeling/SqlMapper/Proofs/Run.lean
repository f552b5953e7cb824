import Mathlib.Data.List.Forall2
import SqlMapper.Fault

/-!
# Runs: computations with a state that can fail

Configuring, sending statements and filling templates are all computations
`ExceptT Fault (StateM σ)`: they change a state, and what was changed before
a fault stays changed. This module says how such a computation runs, step by
step, so that no later proof has to open the monad.

## Main definitions

* `Keeps` — whatever its outcome, the computation keeps a property of the
  state.
* `AllOrNothing` — when the computation fails, the state is as it was.
* `Couples` — two runs that succeed keep a relation between their states.

## Main results

* `run_bind_of_ok`, `run_bind_of_error` — the two ways in which a first step
  can go.
* `run_mapM_cons_of_ok`, `run_mapM_append_of_error` — the same for a list of
  steps.
* `Keeps.bind`, `Keeps.forM` — a computation keeps what its steps keep.
* `Couples.bind`, `Couples.forM` — two runs of a computation stay related if
  those of its steps do.
* `exists_of_bind_ok`, `exists_of_run_bind_ok`, `exists_of_run_forM_ok` — how
  a run that succeeded went.
* `run_bind_error_cases`, `exists_of_run_forM_error` — where a run that failed
  stopped.
* `foldlM_keeps`, `foldlM_of_forall`, `toBool_foldlM`, `mapM_eq_ok_iff`,
  `mapM_eq_map`, `exists_of_mapM_ok`, `exists_of_mapM_error` — folds and lists of steps without
  a state.
-/

namespace SqlMapper

/-- A computation with a state that can fail. -/
abbrev Stateful (σ α : Type) := ExceptT Fault (StateM σ) α

/-- Two steps succeed if the first one does and the second one does with its
outcome. -/
theorem exists_of_bind_ok {ε α β : Type} {x : Except ε α} {f : α → Except ε β} {b : β}
    (h : x >>= f = .ok b) : ∃ a, x = .ok a ∧ f a = .ok b := by
  rcases x with _ | a
  · cases h
  · exact ⟨a, rfl, h⟩

theorem toBool_of_eq_ok {α : Type} {x : Except Fault α} {a : α} (h : x = .ok a) :
    x.toBool = true := by
  rw [h]
  rfl

/-- A run that is seen to succeed has an outcome. -/
theorem exists_ok_of_toBool {α : Type} {x : Except Fault α} (h : x.toBool = true) :
    ∃ a, x = .ok a := by
  rcases x with _ | a
  · cases h
  · exact ⟨a, rfl⟩

/-- A run whose outcome is seen to pass a test has an outcome that does. -/
theorem exists_ok_of_any {α : Type} {x : Except Fault α} {p : α → Bool}
    (h : x.toOption.any p = true) : ∃ a, x = .ok a ∧ p a = true := by
  rcases x with _ | a
  · cases h
  · exact ⟨a, rfl, h⟩

/-- A property that every step keeps holds at the end of a fold that
succeeds. -/
theorem foldlM_keeps {α β : Type} {f : β → α → Except Fault β} {P : β → Prop}
    (hstep : ∀ {b a b'}, f b a = .ok b' → P b → P b') {as : List α} {b b' : β}
    (h : as.foldlM f b = .ok b') (hb : P b) : P b' := by
  induction as generalizing b with
  | nil =>
      obtain rfl := Except.ok.inj h
      exact hb
  | cons a as ih =>
      rw [List.foldlM_cons] at h
      obtain ⟨mid, hfirst, hrest⟩ := exists_of_bind_ok h
      exact ih hrest (hstep hfirst hb)

/-- A fold whose steps change nothing changes nothing. -/
theorem foldlM_of_forall {α β : Type} {f : β → α → Except Fault β} {as : List α} {b : β}
    (h : ∀ a ∈ as, f b a = .ok b) : as.foldlM f b = .ok b := by
  induction as with
  | nil => rfl
  | cons a as ih =>
      rw [List.foldlM_cons, h a List.mem_cons_self]
      exact ih fun a ha => h a (List.mem_cons_of_mem _ ha)

/-- If it is up to the step alone whether it succeeds, a fold succeeds if all
steps do. -/
theorem toBool_foldlM {α β : Type} {f : β → α → Except Fault β} {p : α → Bool}
    (hstep : ∀ b a, (f b a).toBool = p a) (as : List α) (b : β) :
    (as.foldlM f b).toBool = as.all p := by
  induction as generalizing b with
  | nil => rfl
  | cons a as ih =>
      rw [List.foldlM_cons, List.all_cons, ← hstep b a]
      rcases f b a with _ | b'
      · rfl
      · exact ih b'

/-- A list of steps succeeds with the outcomes of its steps. -/
theorem mapM_eq_ok_iff {α β : Type} {f : α → Except Fault β} {as : List α} {bs : List β} :
    as.mapM f = .ok bs ↔ List.Forall₂ (fun a b => f a = .ok b) as bs := by
  constructor
  · intro h
    induction as generalizing bs with
    | nil =>
        obtain rfl := Except.ok.inj h
        exact .nil
    | cons a as ih =>
        rw [List.mapM_cons] at h
        obtain ⟨first, hfirst, htail⟩ := exists_of_bind_ok h
        obtain ⟨rest, hrest, hbs⟩ := exists_of_bind_ok htail
        obtain rfl := Except.ok.inj hbs
        exact .cons hfirst (ih hrest)
  · intro h
    induction h with
    | nil => rfl
    | cons hfirst _ ih =>
        rw [List.mapM_cons, hfirst, ih]
        rfl

/-- If the outcome of every step is that of another step put through a function, the
outcomes are those of the other steps put through it. -/
theorem mapM_eq_map {α β γ : Type} {f : α → Except Fault γ} {g : α → Except Fault β} {h : β → γ}
    (hstep : ∀ a, f a = (g a).map h) (as : List α) : as.mapM f = (as.mapM g).map (List.map h) := by
  induction as with
  | nil => rfl
  | cons a as ih =>
      rw [List.mapM_cons, List.mapM_cons, hstep, ih]
      rcases g a with _ | b
      · rfl
      · rcases as.mapM g with _ | bs <;> rfl

/-- In related lists every member of the second is related to one of the first. -/
theorem exists_of_forall₂ {α β : Type} {R : α → β → Prop} {as : List α} {bs : List β} {b : β}
    (h : List.Forall₂ R as bs) (hb : b ∈ bs) : ∃ a ∈ as, R a b := by
  obtain ⟨i, hi, rfl⟩ := List.getElem_of_mem hb
  exact ⟨_, List.getElem_mem _, h.get (h.length_eq ▸ hi) hi⟩

/-- Every outcome of a list of steps that succeeds is that of some step. -/
theorem exists_of_mapM_ok {α β : Type} {f : α → Except Fault β} {as : List α} {bs : List β} {b : β}
    (h : as.mapM f = .ok bs) (hb : b ∈ bs) : ∃ a ∈ as, f a = .ok b :=
  exists_of_forall₂ (R := fun a b => f a = .ok b) (mapM_eq_ok_iff.mp h) hb

/-- A list of steps fails with the fault of some step. -/
theorem exists_of_mapM_error {α β : Type} {f : α → Except Fault β} {as : List α} {fault : Fault}
    (h : as.mapM f = .error fault) : ∃ a ∈ as, f a = .error fault := by
  induction as with
  | nil => cases h
  | cons a as ih =>
      rw [List.mapM_cons] at h
      rcases hfirst : f a with earlier | b <;> rw [hfirst] at h
      · cases h
        exact ⟨a, List.mem_cons_self, hfirst⟩
      · rcases hrest : as.mapM f with later | bs <;> rw [hrest] at h
        · cases h
          obtain ⟨other, hmem, hother⟩ := ih hrest
          exact ⟨other, List.mem_cons_of_mem _ hmem, hother⟩
        · cases h

section Runs

variable {σ α β : Type}

theorem run_bind (x : Stateful σ α) (f : α → Stateful σ β) (s : σ) :
    (x >>= f).run s =
      match x.run s with
      | (.ok a, s') => (f a).run s'
      | (.error fault, s') => (.error fault, s') := by
  change (fun r : Except Fault α × σ => (ExceptT.bindCont f r.1).run r.2) (x.run s) = _
  rcases x.run s with ⟨_ | _, _⟩ <;> rfl

/-- A run of two steps goes on from where the first one got. -/
theorem run_bind_of_ok {x : Stateful σ α} {f : α → Stateful σ β} {s s' : σ} {a : α}
    (h : x.run s = (.ok a, s')) : (x >>= f).run s = (f a).run s' := by
  rw [run_bind, h]

/-- A run ends with the fault of its first step. -/
theorem run_bind_of_error {x : Stateful σ α} {f : α → Stateful σ β} {s s' : σ} {fault : Fault}
    (h : x.run s = (.error fault, s')) : (x >>= f).run s = (.error fault, s') := by
  rw [run_bind, h]

/-- A run of two steps succeeds if the first one does and the second one does
from there. -/
theorem exists_of_run_bind_ok {x : Stateful σ α} {f : α → Stateful σ β} {s s'' : σ} {b : β}
    (h : (x >>= f).run s = (.ok b, s'')) :
    ∃ a s', x.run s = (.ok a, s') ∧ (f a).run s' = (.ok b, s'') := by
  rw [run_bind] at h
  rcases hx : x.run s with ⟨_ | a, s'⟩ <;> rw [hx] at h
  · cases h
  · exact ⟨a, s', rfl, h⟩

/-- A run of two steps fails if the first one does, or else if the second one
does from there. -/
theorem run_bind_error_cases {x : Stateful σ α} {f : α → Stateful σ β} {s s'' : σ} {fault : Fault}
    (h : (x >>= f).run s = (.error fault, s'')) :
    x.run s = (.error fault, s'') ∨
      ∃ a s', x.run s = (.ok a, s') ∧ (f a).run s' = (.error fault, s'') := by
  rw [run_bind] at h
  rcases hx : x.run s with ⟨earlier | a, s'⟩ <;> rw [hx] at h
  · cases h
    exact .inl rfl
  · exact .inr ⟨a, s', rfl, h⟩

@[simp] theorem run_pure (a : α) (s : σ) : (pure a : Stateful σ α).run s = (.ok a, s) := rfl

@[simp] theorem run_throw (fault : Fault) (s : σ) :
    (throw fault : Stateful σ α).run s = (.error fault, s) := rfl

@[simp] theorem run_get (s : σ) : (get : Stateful σ σ).run s = (.ok s, s) := rfl

@[simp] theorem run_set (s s' : σ) : (set s' : Stateful σ PUnit).run s = (.ok ⟨⟩, s') := rfl

@[simp] theorem run_modify (f : σ → σ) (s : σ) :
    (modify f : Stateful σ PUnit).run s = (.ok ⟨⟩, f s) := rfl

/-- A computation without a state leaves every state as it is. -/
@[simp] theorem run_lift (outcome : Except Fault α) (s : σ) :
    (liftM outcome : Stateful σ α).run s = (outcome, s) := rfl

/-- A computation without a state that goes first fails, or else the second
step does from the same state. -/
theorem run_lift_bind_error_cases {outcome : Except Fault α} {f : α → Stateful σ β} {s s' : σ}
    {fault : Fault} (h : ((liftM outcome : Stateful σ α) >>= f).run s = (.error fault, s')) :
    outcome = .error fault ∧ s' = s ∨
      ∃ a, outcome = .ok a ∧ (f a).run s = (.error fault, s') := by
  rcases outcome with earlier | a
  · cases h
    exact .inl ⟨rfl, rfl⟩
  · exact .inr ⟨a, rfl, h⟩

end Runs

/-! ## Lists of steps -/

section Lists

variable {σ α β : Type} {f : α → Stateful σ β}

theorem run_mapM_cons_of_ok {a : α} {as : List α} {b : β} {s s' : σ}
    (h : (f a).run s = (.ok b, s')) :
    ((a :: as).mapM f).run s = (((as.mapM f).run s').1.map (b :: ·), ((as.mapM f).run s').2) := by
  rw [List.mapM_cons, run_bind_of_ok h, run_bind]
  rcases (as.mapM f).run s' with ⟨_ | _, _⟩ <;> rfl

theorem run_mapM_cons_of_error {a : α} {as : List α} {s s' : σ} {fault : Fault}
    (h : (f a).run s = (.error fault, s')) :
    ((a :: as).mapM f).run s = (.error fault, s') := by
  rw [List.mapM_cons, run_bind_of_error h]

/-- A step that fails ends the run: the steps behind it are not made. -/
theorem run_mapM_append_of_error {before after : List α} {a : α} {bs : List β} {s s₁ s₂ : σ}
    {fault : Fault} (hbefore : (before.mapM f).run s = (.ok bs, s₁))
    (ha : (f a).run s₁ = (.error fault, s₂)) :
    ((before ++ a :: after).mapM f).run s = (.error fault, s₂) := by
  rw [List.mapM_append, run_bind_of_ok hbefore, run_bind_of_error]
  exact run_mapM_cons_of_error ha

end Lists

/-! ## Properties that a computation keeps -/

section Keeping

variable {σ α β : Type} {P : σ → Prop}

/-- Whatever its outcome, the computation keeps the property of the state. -/
def Keeps (P : σ → Prop) (x : Stateful σ α) : Prop := ∀ s, P s → P (x.run s).2

/-- A computation that leaves the state as it is keeps everything. -/
theorem Keeps.of_run_snd {x : Stateful σ α} (h : ∀ s, (x.run s).2 = s) : Keeps P x := by
  intro s hs
  rw [h s]
  exact hs

theorem keeps_pure (a : α) : Keeps P (pure a : Stateful σ α) := .of_run_snd fun _ => rfl

theorem keeps_throw (fault : Fault) : Keeps P (throw fault : Stateful σ α) :=
  .of_run_snd fun _ => rfl

theorem keeps_get : Keeps P (get : Stateful σ σ) := .of_run_snd fun _ => rfl

theorem keeps_lift (outcome : Except Fault α) : Keeps P (liftM outcome : Stateful σ α) :=
  .of_run_snd fun _ => rfl

theorem keeps_liftState {x : StateM σ α} (h : ∀ s, P s → P (x.run s).2) :
    Keeps P (liftM x : Stateful σ α) := h

theorem keeps_modify {f : σ → σ} (h : ∀ s, P s → P (f s)) :
    Keeps P (modify f : Stateful σ PUnit) := h

theorem Keeps.and {Q : σ → Prop} {x : Stateful σ α} (hP : Keeps P x) (hQ : Keeps Q x) :
    Keeps (fun s => P s ∧ Q s) x :=
  fun s hs => ⟨hP s hs.1, hQ s hs.2⟩

/-- What holds after a first step holds after a second one that keeps it. -/
theorem run_bind_of_keeps {x : Stateful σ α} {f : α → Stateful σ β} {s : σ}
    (hx : P (x.run s).2) (hf : ∀ a, Keeps P (f a)) : P ((x >>= f).run s).2 := by
  rw [run_bind]
  rcases hrun : x.run s with ⟨_ | a, s'⟩ <;> rw [hrun] at hx
  · exact hx
  · exact hf a s' hx

/-- Two steps keep what both of them keep. -/
theorem Keeps.bind {x : Stateful σ α} {f : α → Stateful σ β} (hx : Keeps P x)
    (hf : ∀ a, Keeps P (f a)) : Keeps P (x >>= f) :=
  fun s hs => run_bind_of_keeps (hx s hs) hf

/-- A list of steps keeps what every step keeps. -/
theorem Keeps.forM {as : List α} {f : α → Stateful σ PUnit} (h : ∀ a ∈ as, Keeps P (f a)) :
    Keeps P (as.forM f) := by
  induction as with
  | nil => exact keeps_pure _
  | cons a as ih =>
      show Keeps P (f a >>= fun _ => as.forM f)
      exact (h a (by simp)).bind fun _ => ih fun b hb => h b (by simp [hb])

theorem Keeps.mapM {as : List α} {f : α → Stateful σ β} (h : ∀ a ∈ as, Keeps P (f a)) :
    Keeps P (as.mapM f) := by
  induction as with
  | nil => exact keeps_pure _
  | cons a as ih =>
      rw [List.mapM_cons]
      refine (h a (by simp)).bind fun b => ?_
      exact (ih fun a ha => h a (by simp [ha])).bind fun bs => keeps_pure _

/-- In a list of steps that succeeds every step does, from a state that the
steps before it lead to, and the steps behind it lead on from there. -/
theorem exists_of_run_forM_ok {as : List α} {f : α → Stateful σ PUnit} {s s' : σ} {a : α}
    (h : (as.forM f).run s = (.ok ⟨⟩, s')) (ha : a ∈ as) :
    ∃ s₁ s₂, (f a).run s₁ = (.ok ⟨⟩, s₂) ∧
      (∀ P : σ → Prop, (∀ b ∈ as, Keeps P (f b)) → P s → P s₁) ∧
      (∀ P : σ → Prop, (∀ b ∈ as, Keeps P (f b)) → P s₂ → P s') := by
  induction as generalizing s with
  | nil => cases ha
  | cons first as ih =>
      obtain ⟨_, t, hfirst, hrest⟩ := exists_of_run_bind_ok (x := f first) h
      have htail (P : σ → Prop) (hP : ∀ b ∈ first :: as, Keeps P (f b)) :
          ∀ b ∈ as, Keeps P (f b) := fun b hb => hP b (by simp [hb])
      rcases List.mem_cons.mp ha with rfl | ha
      · refine ⟨s, t, hfirst, fun P _ hs => hs, ?_⟩
        intro P hP ht
        have hs' := Keeps.forM (htail P hP) t ht
        rwa [hrest] at hs'
      · obtain ⟨s₁, s₂, hrun, hbefore, hafter⟩ := ih hrest ha
        refine ⟨s₁, s₂, hrun, fun P hP hs => hbefore P (htail P hP) ?_,
          fun P hP => hafter P (htail P hP)⟩
        have ht := hP first (by simp) s hs
        rwa [hfirst] at ht

end Keeping

/-! ## Failures that leave nothing behind -/

section Failing

variable {σ α β : Type}

/-- When the computation fails, the state is as it was. -/
def AllOrNothing (x : Stateful σ α) : Prop :=
  ∀ s s' fault, x.run s = (.error fault, s') → s' = s

/-- A computation that keeps everything writes nothing. -/
theorem eq_of_keeps {x : Stateful σ α} (h : ∀ P : σ → Prop, Keeps P x) {s s' : σ}
    {outcome : Except Fault α} (hrun : x.run s = (outcome, s')) : s' = s := by
  have hs := h (· = s) s rfl
  rwa [hrun] at hs

/-- A first step that writes nothing leaves the second one to run from the
same state. -/
theorem exists_of_run_bind_ok_of_keeps {x : Stateful σ α} {f : α → Stateful σ β} {s s' : σ} {b : β}
    (hx : ∀ P : σ → Prop, Keeps P x) (h : (x >>= f).run s = (.ok b, s')) :
    ∃ a, x.run s = (.ok a, s) ∧ (f a).run s = (.ok b, s') := by
  obtain ⟨a, t, hfirst, hsecond⟩ := exists_of_run_bind_ok h
  obtain rfl := eq_of_keeps hx hfirst
  exact ⟨a, hfirst, hsecond⟩

theorem AllOrNothing.of_keeps {x : Stateful σ α} (h : ∀ P : σ → Prop, Keeps P x) :
    AllOrNothing x := fun _ _ _ hrun => eq_of_keeps h hrun

/-- A step that writes nothing can go before a computation. -/
theorem AllOrNothing.bind {x : Stateful σ α} {f : α → Stateful σ β}
    (hx : ∀ P : σ → Prop, Keeps P x) (hf : ∀ a, AllOrNothing (f a)) : AllOrNothing (x >>= f) := by
  intro s s'' fault h
  rcases run_bind_error_cases h with h | ⟨a, s', hrun, h⟩
  · exact eq_of_keeps hx h
  · rw [hf a s' s'' fault h, eq_of_keeps hx hrun]

theorem allOrNothing_set (s : σ) : AllOrNothing (set s : Stateful σ PUnit) := by
  intro s' s'' fault h
  cases h

/-- A list of steps that fails got through the steps before one of them and
stopped there. -/
theorem exists_of_run_forM_error {as : List α} {f : α → Stateful σ PUnit} {s s' : σ} {fault : Fault}
    (h : (as.forM f).run s = (.error fault, s')) :
    ∃ before a after s₁, as = before ++ a :: after ∧
      (before.forM f).run s = (.ok ⟨⟩, s₁) ∧ (f a).run s₁ = (.error fault, s') := by
  induction as generalizing s with
  | nil => cases h
  | cons first as ih =>
      rcases run_bind_error_cases (x := f first) h with hfirst | ⟨_, t, hfirst, hrest⟩
      · exact ⟨[], first, as, s, rfl, rfl, hfirst⟩
      · obtain ⟨before, a, after, s₁, rfl, hbefore, ha⟩ := ih hrest
        refine ⟨first :: before, a, after, s₁, rfl, ?_, ha⟩
        show (f first >>= fun _ => before.forM f).run s = (.ok ⟨⟩, s₁)
        rw [run_bind_of_ok hfirst, hbefore]

end Failing

/-! ## Two runs from related states -/

section Coupling

variable {σ α β : Type} {R : σ → σ → Prop}

/-- Two runs from related states, if both succeed, have the same outcome and
lead to related states. -/
def Couples (R : σ → σ → Prop) (x : Stateful σ α) : Prop :=
  ∀ s s' t t' a a', R s s' → x.run s = (.ok a, t) → x.run s' = (.ok a', t') → a = a' ∧ R t t'

theorem couples_pure (a : α) : Couples R (pure a : Stateful σ α) := by
  intro s s' t t' b b' hR h h'
  cases h
  cases h'
  exact ⟨rfl, hR⟩

theorem couples_lift (outcome : Except Fault α) : Couples R (liftM outcome : Stateful σ α) := by
  intro s s' t t' a a' hR h h'
  rw [run_lift] at h h'
  obtain ⟨rfl, rfl⟩ := Prod.mk.inj h
  obtain ⟨houtcome, rfl⟩ := Prod.mk.inj h'
  exact ⟨Except.ok.inj houtcome, hR⟩

theorem couples_modify {f : σ → σ} (h : ∀ s s', R s s' → R (f s) (f s')) :
    Couples R (modify f : Stateful σ PUnit) := by
  intro s s' t t' a a' hR hs hs'
  cases hs
  cases hs'
  exact ⟨rfl, h s s' hR⟩

theorem Couples.bind {x : Stateful σ α} {f : α → Stateful σ β} (hx : Couples R x)
    (hf : ∀ a, Couples R (f a)) : Couples R (x >>= f) := by
  intro s s' t t' b b' hR h h'
  obtain ⟨a, u, hfirst, hrest⟩ := exists_of_run_bind_ok h
  obtain ⟨a', u', hfirst', hrest'⟩ := exists_of_run_bind_ok h'
  obtain ⟨rfl, hR⟩ := hx s s' u u' a a' hR hfirst hfirst'
  exact hf a u u' t t' b b' hR hrest hrest'

/-- A computation that looks at the state first goes on in the same way from
related states if it looks only at what these share. -/
theorem Couples.get_bind {f : σ → Stateful σ α} (hsame : ∀ s s', R s s' → f s = f s')
    (hf : ∀ s, Couples R (f s)) : Couples R (get >>= f) := by
  intro s s' t t' a a' hR h h'
  rw [run_bind_of_ok (run_get s)] at h
  rw [run_bind_of_ok (run_get s'), ← hsame s s' hR] at h'
  exact hf s s s' t t' a a' hR h h'

theorem Couples.forM {as : List α} {f : α → Stateful σ PUnit} (h : ∀ a ∈ as, Couples R (f a)) :
    Couples R (as.forM f) := by
  induction as with
  | nil => exact couples_pure _
  | cons a as ih =>
      show Couples R (f a >>= fun _ => as.forM f)
      exact (h a (by simp)).bind fun _ => ih fun b hb => h b (by simp [hb])

theorem Couples.mapM {as : List α} {f : α → Stateful σ β} (h : ∀ a ∈ as, Couples R (f a)) :
    Couples R (as.mapM f) := by
  induction as with
  | nil => exact couples_pure _
  | cons a as ih =>
      rw [List.mapM_cons]
      refine (h a (by simp)).bind fun b => ?_
      exact (ih fun a ha => h a (by simp [ha])).bind fun bs => couples_pure _

end Coupling

end SqlMapper
