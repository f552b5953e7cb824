import SqlMapper.Proofs.Property.Assignability
import SqlMapper.Proofs.Run
import SqlMapper.Property.Descriptor

/-!
# One method of several

The candidates for a property are compared one after the other, each with the
best one so far. The one that is left has not been compared with all others, but
with one that has beaten those before it. So what carries over to all of them is
a relation that is transitive.

A comparison fails if neither candidate outranks the other. Whether it is made at
all depends on the order: two candidates that cannot be compared do no harm if a
third one that outranks both comes before the second of them. No order fails
exactly if any two candidates can be compared.

## Main definitions

* `Leads` — one candidate outranks all others.
* `Decides` — a comparison leaves the one that outranks the other.
* `OutranksGetter`, `OutranksSetter` — the narrower type, and among boolean
  getters the name.

## Main results

* `Decides.leads_of_choose` — who is left outranks all others.
* `Decides.pairwise_iff_forall_choose` — when every order leaves one.
* `Leads.unique` — the leaders of two orders outrank each other.
* `decides_preferGetter`, `decides_preferSetter` — the two comparisons.
-/

namespace SqlMapper

section Fold

variable {α : Type}

/-- The candidate outranks every other one. -/
def Leads (Outranks : α → α → Prop) (candidates : List α) (leader : α) : Prop :=
  ∃ others, candidates.Perm (leader :: others) ∧ ∀ other ∈ others, Outranks leader other

/-- One of the two outranks the other. -/
def Comparable (Outranks : α → α → Prop) (a b : α) : Prop := Outranks a b ∨ Outranks b a

instance {Outranks : α → α → Prop} [DecidableRel Outranks] (a b : α) :
    Decidable (Comparable Outranks a b) := inferInstanceAs (Decidable (_ ∨ _))

variable {Outranks : α → α → Prop} {candidates others : List α} {leader loser winner : α}

namespace Leads

theorem mem (h : Leads Outranks candidates leader) : leader ∈ candidates := by
  obtain ⟨others, hperm, -⟩ := h
  exact hperm.mem_iff.mpr List.mem_cons_self

theorem perm (h : Leads Outranks candidates leader) (hperm : candidates.Perm others) :
    Leads Outranks others leader := by
  obtain ⟨rest, hleader, hall⟩ := h
  exact ⟨rest, hperm.symm.trans hleader, hall⟩

/-- Every candidate is the leader or outranked by it. -/
theorem eq_or_outranks (h : Leads Outranks candidates leader) {a : α} (ha : a ∈ candidates) :
    a = leader ∨ Outranks leader a := by
  obtain ⟨others, hperm, hall⟩ := h
  exact (List.mem_cons.mp (hperm.mem_iff.mp ha)).imp_right (hall a)

/-- Who leads in two orders of the candidates is the same or outranks itself from
either side. -/
theorem unique {other : α} (h : Leads Outranks candidates leader)
    (hother : Leads Outranks others other) (hperm : candidates.Perm others) :
    leader = other ∨ Outranks leader other ∧ Outranks other leader := by
  have hback := h.perm hperm
  rcases hback.eq_or_outranks hother.mem with heq | hleads
  · exact .inl heq.symm
  · rcases hother.eq_or_outranks hback.mem with heq | hled
    · exact .inl heq
    · exact .inr ⟨hleads, hled⟩

/-- A candidate that is outranked by another one does not change who leads. -/
theorem cons_loser (h : Leads Outranks (winner :: others) leader)
    (hwinner : Outranks winner loser)
    (htrans : ∀ {a}, Outranks a winner → Outranks a loser) :
    Leads Outranks (loser :: winner :: others) leader := by
  have hloser : Outranks leader loser := by
    rcases h.eq_or_outranks List.mem_cons_self with rfl | hleads
    · exact hwinner
    · exact htrans hleads
  obtain ⟨rest, hperm, hall⟩ := h
  exact ⟨loser :: rest, (hperm.cons loser).trans (.swap leader loser rest),
    List.forall_mem_cons.mpr ⟨hloser, hall⟩⟩

end Leads

/-- What is chosen is left by comparing the other candidates with the first one. -/
theorem exists_of_choose {prefer : Method α → Method α → Except Fault (Method α)}
    {candidates : List (Method α)} {leader : Method α}
    (h : choose prefer candidates = .ok (some leader)) :
    ∃ first others, candidates = first :: others ∧ others.foldlM prefer first = .ok leader := by
  cases candidates with
  | nil => cases h
  | cons first others =>
      obtain ⟨winner, hwinner, hsome⟩ := exists_of_bind_ok h
      cases hsome
      exact ⟨first, others, rfl, hwinner⟩

/-- A choice succeeds if the comparisons do. -/
theorem toBool_choose_eq_true_iff {prefer : Method α → Method α → Except Fault (Method α)}
    {first : Method α} {others : List (Method α)} :
    (choose prefer (first :: others)).toBool = true ↔
      (others.foldlM prefer first).toBool = true := by
  show (others.foldlM prefer first >>= fun winner => Except.ok (some winner)).toBool = true ↔ _
  rcases others.foldlM prefer first with fault | winner <;> exact Iff.rfl

/-- A comparison leaves one that outranks the other, and fails only if neither
does. Among what is fit, outranking carries over. -/
structure Decides (prefer : Method α → Method α → Except Fault (Method α))
    (Outranks : Method α → Method α → Prop) (Fit : Method α → Prop) : Prop where
  outcome : ∀ {a b winner}, prefer a b = .ok winner →
    winner = a ∧ Outranks a b ∨ winner = b ∧ Outranks b a
  succeeds : ∀ {a b}, Comparable Outranks a b → ∃ winner, prefer a b = .ok winner
  trans : ∀ {a b c}, Fit b → Outranks a b → Outranks b c → Outranks a c

namespace Decides

variable {prefer : Method α → Method α → Except Fault (Method α)}
  {Outranks : Method α → Method α → Prop} {Fit : Method α → Prop}
  {first leader : Method α} {candidates others : List (Method α)}

/-- Of the first two candidates one is left and beats the other. -/
theorem exists_loser (hdecides : Decides prefer Outranks Fit) {a b winner : Method α}
    (h : prefer a b = .ok winner) (others : List (Method α)) :
    ∃ loser, (a :: b :: others).Perm (loser :: winner :: others) ∧ Outranks winner loser := by
  rcases hdecides.outcome h with ⟨rfl, hbeats⟩ | ⟨rfl, hbeats⟩
  · exact ⟨b, .swap b winner others, hbeats⟩
  · exact ⟨a, .refl _, hbeats⟩

/-- Who is left is one of the candidates. -/
theorem mem_of_foldlM (hdecides : Decides prefer Outranks Fit)
    (h : others.foldlM prefer first = .ok leader) : leader ∈ first :: others := by
  induction others generalizing first with
  | nil =>
      obtain rfl := Except.ok.inj h
      exact List.mem_singleton_self _
  | cons next others ih =>
      rw [List.foldlM_cons] at h
      obtain ⟨winner, hwinner, hrest⟩ := exists_of_bind_ok h
      obtain ⟨loser, hperm, -⟩ := hdecides.exists_loser hwinner others
      exact hperm.mem_iff.mpr (List.mem_cons_of_mem _ (ih hrest))

/-- Who is left outranks all others. -/
theorem leads_of_foldlM (hdecides : Decides prefer Outranks Fit)
    (hfit : ∀ candidate ∈ first :: others, Fit candidate)
    (h : others.foldlM prefer first = .ok leader) : Leads Outranks (first :: others) leader := by
  induction others generalizing first with
  | nil =>
      obtain rfl := Except.ok.inj h
      exact ⟨[], .refl _, fun _ hmem => absurd hmem List.not_mem_nil⟩
  | cons next others ih =>
      rw [List.foldlM_cons] at h
      obtain ⟨winner, hwinner, hrest⟩ := exists_of_bind_ok h
      obtain ⟨loser, hperm, hbeats⟩ := hdecides.exists_loser hwinner others
      have hfit' : ∀ candidate ∈ winner :: others, Fit candidate :=
        fun candidate hmem => hfit candidate (hperm.mem_iff.mpr (List.mem_cons_of_mem _ hmem))
      refine ((ih hfit' hrest).cons_loser hbeats fun ha => ?_).perm hperm.symm
      exact hdecides.trans (hfit' winner List.mem_cons_self) ha hbeats

theorem mem_of_choose (hdecides : Decides prefer Outranks Fit)
    (h : choose prefer candidates = .ok (some leader)) : leader ∈ candidates := by
  obtain ⟨first, others, rfl, hfold⟩ := exists_of_choose h
  exact hdecides.mem_of_foldlM hfold

theorem leads_of_choose (hdecides : Decides prefer Outranks Fit)
    (hfit : ∀ candidate ∈ candidates, Fit candidate)
    (h : choose prefer candidates = .ok (some leader)) : Leads Outranks candidates leader := by
  obtain ⟨first, others, rfl, hfold⟩ := exists_of_choose h
  exact hdecides.leads_of_foldlM hfit hfold

/-- If any two candidates can be compared, one is left. -/
theorem toBool_foldlM_of_pairwise (hdecides : Decides prefer Outranks Fit)
    (h : (first :: others).Pairwise (Comparable Outranks)) :
    (others.foldlM prefer first).toBool = true := by
  induction others generalizing first with
  | nil => rfl
  | cons next others ih =>
      obtain ⟨hfirst, hnext⟩ := List.pairwise_cons.mp h
      obtain ⟨winner, hwinner⟩ := hdecides.succeeds (hfirst next List.mem_cons_self)
      rw [List.foldlM_cons, hwinner]
      refine ih ?_
      rcases hdecides.outcome hwinner with ⟨rfl, -⟩ | ⟨rfl, -⟩
      · exact List.pairwise_cons.mpr
          ⟨fun other hmem => hfirst other (List.mem_cons_of_mem _ hmem), hnext.of_cons⟩
      · exact hnext

/-- Every order of the candidates leaves one exactly if any two can be
compared. -/
theorem pairwise_iff_forall_choose (hdecides : Decides prefer Outranks Fit) :
    candidates.Pairwise (Comparable Outranks) ↔
      ∀ order, order.Perm candidates → (choose prefer order).toBool = true := by
  constructor
  · intro h order hperm
    have horder := (hperm.pairwise_iff Or.symm).mpr h
    cases order with
    | nil => rfl
    | cons first others =>
        exact toBool_choose_eq_true_iff.mpr (hdecides.toBool_foldlM_of_pairwise horder)
  · intro h
    rw [List.pairwise_iff_forall_sublist]
    intro a b hsub
    -- the order that begins with the two compares them first
    obtain ⟨rest, hperm⟩ := hsub.exists_perm_append
    have hchosen := toBool_choose_eq_true_iff.mp (h (a :: b :: rest) hperm.symm)
    rw [List.foldlM_cons] at hchosen
    obtain ⟨last, hlast⟩ := exists_ok_of_toBool hchosen
    obtain ⟨winner, hwinner, -⟩ := exists_of_bind_ok hlast
    rcases hdecides.outcome hwinner with ⟨-, hbeats⟩ | ⟨-, hbeats⟩
    · exact .inl hbeats
    · exact .inr hbeats

end Decides

end Fold

/-! ## The two comparisons -/

/-- The name of the method begins with `is`. -/
def Method.isNamedIs {α : Type} (method : Method α) : Bool :=
  Text.startsWith ['i', 's'] method.name.toList

variable (family : Family)

/-- The type of the getter can stand for that of the other one and is not the
same, unless both are boolean; then it is named `is…` if the other one is. -/
structure OutranksGetter (getter other : Method Reader) : Prop where
  narrower : family.isAssignable other.type getter.type = true
  boolean : other.type = getter.type → getter.type = .bool
  named : getter.type = .bool → other.type = .bool → other.isNamedIs = true →
    getter.isNamedIs = true

instance (getter other : Method Reader) : Decidable (OutranksGetter family getter other) :=
  decidable_of_iff
    (family.isAssignable other.type getter.type = true ∧
      (other.type = getter.type → getter.type = .bool) ∧
      (getter.type = .bool → other.type = .bool → other.isNamedIs = true →
        getter.isNamedIs = true))
    ⟨fun ⟨narrower, boolean, named⟩ => ⟨narrower, boolean, named⟩,
      fun ⟨narrower, boolean, named⟩ => ⟨narrower, boolean, named⟩⟩

/-- The type of the setter can stand for that of the other one. -/
def OutranksSetter (setter other : Method Writer) : Prop :=
  family.isAssignable other.type setter.type = true

instance (setter other : Method Writer) : Decidable (OutranksSetter family setter other) :=
  inferInstanceAs (Decidable (_ = true))

variable {family} {type : TypeName} {property : String}

/-- A narrower type outranks another one. -/
theorem OutranksGetter.of_ne {getter other : Method Reader} (hne : other.type ≠ getter.type)
    (h : family.isAssignable other.type getter.type = true) :
    OutranksGetter family getter other where
  narrower := h
  boolean heq := absurd heq hne
  named hgetter hother := absurd (hother.trans hgetter.symm) hne

theorem decides_preferGetter : Decides (preferGetter family type property)
    (OutranksGetter family) fun getter => family.AcyclicAt getter.type where
  outcome {a b winner} h := by
    unfold preferGetter at h
    split at h
    · next heq =>
        split at h
        · cases h
        · next hbool =>
            have hb : b.type = .bool := not_not.mp hbool
            have hnarrower : family.isAssignable a.type b.type = true := by
              rw [heq]
              exact Family.isAssignable_refl _
            split at h
            · next his =>
                cases h
                exact .inr ⟨rfl, hnarrower, fun _ => hb, fun _ _ _ => his⟩
            · next his =>
                cases h
                exact .inl ⟨rfl, heq ▸ hnarrower, fun _ => heq.trans hb, fun _ _ h => absurd h his⟩
    · next hne =>
        split at h
        · next hab =>
            cases h
            exact .inr ⟨rfl, .of_ne hne hab⟩
        · split at h
          · next hba =>
              cases h
              exact .inl ⟨rfl, .of_ne (Ne.symm hne) hba⟩
          · cases h
  succeeds {a b} h := by
    unfold preferGetter
    split
    · next heq =>
        have hb : b.type = .bool := by
          rcases h with h | h
          · exact heq.symm.trans (h.boolean heq.symm)
          · exact h.boolean heq
        rw [if_neg (not_not.mpr hb)]
        split
        · exact ⟨b, rfl⟩
        · exact ⟨a, rfl⟩
    · split
      · exact ⟨b, rfl⟩
      · next hab =>
          have hba : family.isAssignable b.type a.type = true := by
            rcases h with h | h
            · exact h.narrower
            · exact absurd h.narrower hab
          exact ⟨a, if_pos hba⟩
  trans {a b c} hacyclic hab hbc := by
    constructor
    · exact Family.isAssignable_trans hbc.narrower hab.narrower
    · -- equal types leave no room for a third one between them
      intro heq
      have hba : b.type = a.type :=
        Family.isAssignable_antisymm hacyclic hab.narrower (heq ▸ hbc.narrower)
      exact hab.boolean hba
    · intro ha hc his
      have hb : b.type = .bool :=
        Family.isAssignable_antisymm hacyclic (ha ▸ hab.narrower) (hc ▸ hbc.narrower)
      exact hab.named ha hb (hbc.named hb hc his)

theorem decides_preferSetter : Decides (preferSetter family type property)
    (OutranksSetter family) fun _ => True where
  outcome {a b winner} h := by
    unfold preferSetter at h
    split at h
    · next hab =>
        cases h
        exact .inr ⟨rfl, hab⟩
    · split at h
      · next hba =>
          cases h
          exact .inl ⟨rfl, hba⟩
      · cases h
  succeeds {a b} h := by
    unfold preferSetter
    split
    · exact ⟨b, rfl⟩
    · next hab => exact ⟨a, if_pos (h.resolve_right hab)⟩
  trans _ hab hbc := Family.isAssignable_trans hbc hab

/-! ## The setter of the getter's type -/

section ChooseSetter

variable {getterType : Option ValueType} {candidates : List (Method Writer)}

/-- No candidate has the type of the getter. -/
theorem find?_exact_eq_none_iff :
    (getterType.bind fun type => candidates.find? fun candidate => candidate.type = type) = none ↔
      ∀ candidate ∈ candidates, getterType ≠ some candidate.type := by
  cases getterType with
  | none => simp
  | some type =>
      rw [Option.bind_some, List.find?_eq_none]
      simp [eq_comm]

/-- The setter has the type of the getter if some candidate does, and else it
outranks all others. -/
theorem chooseSetter_cases {setter : Method Writer}
    (h : chooseSetter family type property getterType candidates = .ok (some setter)) :
    setter ∈ candidates ∧ getterType = some setter.type ∨
      (∀ candidate ∈ candidates, getterType ≠ some candidate.type) ∧
        Leads (OutranksSetter family) candidates setter := by
  unfold chooseSetter at h
  split at h
  · next exact hexact =>
      obtain rfl := Option.some.inj (Except.ok.inj h)
      obtain ⟨type, htype, hfind⟩ := Option.bind_eq_some_iff.mp hexact
      have hsame := List.find?_some hfind
      refine .inl ⟨List.mem_of_find?_eq_some hfind, ?_⟩
      rw [htype, of_decide_eq_true hsame]
  · next hnone =>
      exact .inr ⟨find?_exact_eq_none_iff.mp hnone,
        decides_preferSetter.leads_of_choose (fun _ _ => trivial) h⟩

theorem mem_of_chooseSetter {setter : Method Writer}
    (h : chooseSetter family type property getterType candidates = .ok (some setter)) :
    setter ∈ candidates := by
  rcases chooseSetter_cases h with ⟨hmem, -⟩ | ⟨-, hleads⟩
  · exact hmem
  · exact hleads.mem

/-- Without a candidate of the getter's type they are compared. -/
theorem chooseSetter_of_forall_ne (h : ∀ candidate ∈ candidates, getterType ≠ some candidate.type) :
    chooseSetter family type property getterType candidates =
      choose (preferSetter family type property) candidates := by
  unfold chooseSetter
  rw [find?_exact_eq_none_iff.mpr h]

/-- With a candidate of the getter's type nothing is compared. -/
theorem toBool_chooseSetter_of_exact {candidate : Method Writer} (hmem : candidate ∈ candidates)
    (htype : getterType = some candidate.type) :
    (chooseSetter family type property getterType candidates).toBool = true := by
  unfold chooseSetter
  split
  · rfl
  · next hnone => exact absurd htype (find?_exact_eq_none_iff.mp hnone candidate hmem)

end ChooseSetter

/-! ## Some method is chosen -/

theorem eq_nil_of_choose {α : Type} {prefer : Method α → Method α → Except Fault (Method α)}
    {candidates : List (Method α)} (h : choose prefer candidates = .ok none) : candidates = [] := by
  cases candidates with
  | nil => rfl
  | cons first others =>
      obtain ⟨winner, -, hsome⟩ := exists_of_bind_ok h
      cases hsome

theorem eq_nil_of_chooseSetter {getterType : Option ValueType} {candidates : List (Method Writer)}
    (h : chooseSetter family type property getterType candidates = .ok none) :
    candidates = [] := by
  unfold chooseSetter at h
  split at h
  · cases h
  · exact eq_nil_of_choose h

end SqlMapper
